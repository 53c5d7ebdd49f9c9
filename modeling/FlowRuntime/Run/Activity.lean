import FlowRuntime.FanOut
import FlowRuntime.Run.Basic

/-!
What a run does while it is busy. It asks for one thing after another and goes on
with each answer, and the run can be seen at every point where it waits. An
activity is the tree of all the ways in which this may go, over all answers. An
operation starts an activity from the run as it stands; only one is under way at a
time, so between two answers nothing but the activity changes the run.
-/
namespace FlowRuntime

/-- What a run asks of those around it. A fan-out makes the same request of all its targets. -/
inductive Call where
  | bind (groups : List ConsumerGroup)
  | repartition (group : ConsumerGroup)
  | start (options : InstanceOptions)
  | fanOut (op : InstanceOp) (targets : List (StageKey × Handle))
  deriving DecidableEq

abbrev Call.Answer : Call → Type
  | .bind _ => Except Failure Unit
  | .repartition _ => Except Failure Unit
  | .start _ => Except Failure Handle
  | .fanOut _ _ => Report StageKey

structure Exchange where
  call : Call
  answer : call.Answer

inductive Activity (α : Type) where
  | done (run : Run) (result : α)
  | waiting (run : Run) (call : Call) (resume : call.Answer → Activity α)

namespace Activity
variable {α β : Type}

def run : Activity α → Run
  | .done run _ => run
  | .waiting run _ _ => run

def bind : Activity α → (Run → α → Activity β) → Activity β
  | .done run a, next => next run a
  | .waiting run call resume, next => .waiting run call fun answer => (resume answer).bind next

end Activity

def Operation (α : Type) : Type := Run → Activity α

abbrev Outcome := Except Failure Unit

namespace Operation
variable {α β : Type}

instance : Monad Operation where
  pure a := fun run => .done run a
  bind op next := fun run => (op run).bind fun run a => next a run

def read (f : Run → α) : Operation α := fun run => .done run (f run)

def change (f : Run → Run) : Operation Unit := fun run => .done (f run) ()

def ask (call : Call) : Operation call.Answer :=
  fun run => .waiting run call fun answer => .done run answer

def transition (target : RunState) (cause : Option String) : Operation Unit :=
  change (·.transition target cause)

def requiring (verb : RunVerb) (allowed : List RunState) (op : Operation Outcome) :
    Operation Outcome := fun run =>
  if run.state ∈ allowed then op run else .done run (.error (.wrongState verb run.state))

/-- What becomes of each target is counted, and does not fail the operation. -/
def fanOut (op : InstanceOp) (targets : List (StageKey × Handle)) : Operation Unit := do
  let report ← ask (.fanOut op targets)
  change (·.countOpFailures report.failed.length)

/-- Starts `left` more instances of a stage that is to have `total`, the first of them numbered
`first`, up to one that fails to start. -/
def startInstances (stage : StageSpec) (total : Nat) : (left first : Nat) → Operation Outcome
  | 0, _ => pure (.ok ())
  | left + 1, first => do
    let options ← read (·.context.instanceOptions stage first total)
    match ← ask (.start options) with
    | .error e => pure (.error (.within (.startingInstance options.key) e))
    | .ok handle =>
      change (·.hold options.key handle)
      startInstances stage total left (first + 1)

def stopAll : Operation Unit := do
  let targets ← read (·.registry.all)
  change Run.releaseAll
  fanOut .stop targets

end Operation
end FlowRuntime
