import FlowRuntime.Failure
import FlowRuntime.Instance.Options
import FlowRuntime.Queue.Binding
import FlowRuntime.Registry
import FlowRuntime.Run.State

/-!
A run: what it was asked to be, how it stands, the instances it holds, the counts
it shows to those who do not wait for it, what it has counted, and its story so
far. Counts are shown only when they are published, so what is shown may be older
than what is held. The first run state, `starting`, is never told to anyone.
-/
namespace FlowRuntime

/-- Names an instance by how many were started before it. -/
abbrev Handle := Nat

structure RunContext where
  run : ProgramRunId
  flow : FlowSpec
  options : RunOptions
  deriving DecidableEq, Inhabited

namespace RunContext

def ofProgram (program : Program) (options : RunOptions) : Except Failure RunContext :=
  if program.id.programType ≠ .flow then .error (.notAFlow program.id)
  else match program.application.flow? program.id.name with
    | none => .error (.undeclaredFlow program.id.name program.application.name)
    | some flow =>
      match flow.validate with
      | .error fault => .error (.invalidFlow fault)
      | .ok _ => .ok ⟨⟨program.id, options.runId⟩, flow, options⟩

def binding (c : RunContext) : Binding := Binding.ofFlow c.run.program c.flow

def consumerGroups (c : RunContext) : List ConsumerGroup :=
  c.binding.consumerGroups c.run.program c.flow

/-- A stage's consumer group with so many partitions, whatever it has now. -/
def consumerGroup (c : RunContext) (stage : String) (partitions : Nat) : ConsumerGroup :=
  ⟨stage, groupId c.run.program stage, partitions, c.binding.queues stage⟩

def instanceOptions (c : RunContext) (stage : StageSpec) (id instances : Nat) : InstanceOptions :=
  .forStage c.run.program c.options stage id instances

end RunContext

/-- What a run has counted, and the instances last published of each of its stages. -/
structure Metrics where
  stageInstances : SortedMap String Nat
  rescales : Nat
  rescaleFailures : Nat
  opFailures : Nat
  deriving DecidableEq, Inhabited

namespace Metrics

def zero : Metrics := ⟨.empty, 0, 0, 0⟩

/-- By name; what has never been counted does not show. -/
def readings (m : Metrics) : SortedMap String Nat :=
  let counted := [("hadron_flow_rescales_total", m.rescales),
    ("hadron_flow_rescale_failures_total", m.rescaleFailures),
    ("hadron_flow_instance_op_failures_total", m.opFailures)].filter (·.2 ≠ 0)
  .ofList (counted ++ m.stageInstances.entries.map fun e =>
    ("hadron_flow_stage_instances\x7bstage=" ++ e.1 ++ "\x7d", e.2))

end Metrics

structure Run where
  context : RunContext
  state : RunState
  cause : Option String
  registry : Registry Handle
  counts : SortedMap String Nat
  metrics : Metrics
  story : List Transition
  deriving DecidableEq, Inhabited

namespace Run

def starting (context : RunContext) : Run :=
  ⟨context, .starting, none, .empty, .empty, .zero, []⟩

/-- Once a run has a cause, it keeps it. -/
def transition (r : Run) (target : RunState) (cause : Option String) : Run :=
  { r with
    state := target
    cause := cause <|> r.cause
    story := r.story ++ [⟨some r.state, target, cause⟩] }

def publish (r : Run) : Run :=
  let counts := Registry.counts r.registry
  { r with
    counts := counts
    metrics.stageInstances := r.context.flow.stages.foldl
      (fun m s => m.insert s.name ((counts.get? s.name).getD 0)) r.metrics.stageInstances }

def hold (r : Run) (key : StageKey) (handle : Handle) : Run :=
  { r with registry := r.registry.insert key handle }

def release (r : Run) (keys : List StageKey) : Run :=
  { r with registry := keys.foldl SortedMap.erase r.registry }

def releaseAll (r : Run) : Run := { r with registry := .empty }

def countRescale (r : Run) : Run :=
  { r with metrics.rescales := r.metrics.rescales + 1 }

def countRescaleFailure (r : Run) : Run :=
  { r with metrics.rescaleFailures := r.metrics.rescaleFailures + 1 }

def countOpFailures (r : Run) (failed : Nat) : Run :=
  { r with metrics.opFailures := r.metrics.opFailures + failed }

end Run
end FlowRuntime
