import FlowRuntime.Program.Spec
import FlowRuntime.Queue.Seahash

/-!
Which queues a stage consumes. Every connection into a stage names one queue; a
stage consumes all of its queues through one consumer group, which has a
partition for each instance. A binding depends on the set of connections only,
neither on their order nor on repetitions.
-/
namespace FlowRuntime

abbrev QueueName := String

namespace QueueName

def ofStream (stream : String) : QueueName := "stream:///" ++ stream

def ofStage (program : ProgramId) (stage output : String) : QueueName :=
  "queue:///" ++ program.application ++ "/" ++ program.name ++ "/" ++ stage ++ "/" ++ output

def ofConnection (program : ProgramId) (c : FlowConnection) : QueueName :=
  match c.source with
  | .stream s => ofStream s
  | .stage s => ofStage program s c.output

end QueueName

/-- The group's identifier is a digest of the stage's full name, so it outlives the run. -/
def groupId (program : ProgramId) (stage : String) : UInt64 :=
  Seahash.ofText
    (program.namespaceName ++ "." ++ program.application ++ "." ++ program.name ++ "." ++ stage)

structure ConsumerGroup where
  stage : String
  groupId : UInt64
  partitions : Nat
  queues : List QueueName
  deriving DecidableEq, Inhabited

structure Binding where
  stages : SortedMap String (SortedMap QueueName Unit)
  deriving DecidableEq, Inhabited

namespace Binding

def empty : Binding := ⟨.empty⟩

def add (b : Binding) (stage : String) (queue : QueueName) : Binding :=
  ⟨b.stages.insert stage (((b.stages.get? stage).getD .empty).insert queue ())⟩

def ofFlow (program : ProgramId) (flow : FlowSpec) : Binding :=
  flow.connections.foldl (fun b c => b.add c.target (QueueName.ofConnection program c)) empty

def queues (b : Binding) (stage : String) : List QueueName :=
  match b.stages.get? stage with
  | none => []
  | some queues => queues.keys

/-- One group for each declared stage that some connection targets, in declaration order. -/
def consumerGroups (b : Binding) (program : ProgramId) (flow : FlowSpec) : List ConsumerGroup :=
  (flow.stages.filter (fun s => b.stages.contains s.name)).map fun s =>
    ⟨s.name, groupId program s.name, s.instances.toNat, b.queues s.name⟩

end Binding
end FlowRuntime
