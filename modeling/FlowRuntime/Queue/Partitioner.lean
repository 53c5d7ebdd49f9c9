import FlowRuntime.Failure
import FlowRuntime.Queue.Binding

/-!
Partition counts, held in memory at two grains: per queue and consumer group, and
per stage. The last assignment wins at each grain. An assignment of no partitions
is refused and changes nothing; binding several groups stops at the first that is
refused, after the groups before it.
-/
namespace FlowRuntime

structure Partitioner where
  queues : SortedMap QueueName (SortedMap UInt64 Nat)
  stages : SortedMap String Nat
  deriving DecidableEq, Inhabited

namespace Partitioner

def empty : Partitioner := ⟨.empty, .empty⟩

def partitions? (p : Partitioner) (queue : QueueName) (group : UInt64) : Option Nat :=
  (p.queues.get? queue).bind (·.get? group)

def stagePartitions? (p : Partitioner) (stage : String) : Option Nat := p.stages.get? stage

def setQueue (group : UInt64) (count : Nat) (m : SortedMap QueueName (SortedMap UInt64 Nat))
    (queue : QueueName) : SortedMap QueueName (SortedMap UInt64 Nat) :=
  m.insert queue (((m.get? queue).getD .empty).insert group count)

def assign (p : Partitioner) (g : ConsumerGroup) : Except Failure Partitioner :=
  if g.partitions = 0 then .error (.noPartitions g.stage)
  else .ok ⟨g.queues.foldl (setQueue g.groupId g.partitions) p.queues,
    p.stages.insert g.stage g.partitions⟩

/-- The partitioner afterwards, and the refusal that ended it if there was one. -/
def bind (p : Partitioner) : List ConsumerGroup → Partitioner × Except Failure Unit
  | [] => (p, .ok ())
  | g :: rest =>
    match p.assign g with
    | .error e => (p, .error e)
    | .ok p => p.bind rest

def repartition (p : Partitioner) (g : ConsumerGroup) : Partitioner × Except Failure Unit :=
  p.bind [g]

end Partitioner
end FlowRuntime
