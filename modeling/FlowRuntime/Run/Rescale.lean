import FlowRuntime.Run.Lifecycle

/-!
Changing the number of a stage's instances while the run is alive. Other stages
are not touched. Growing, the instances there are are suspended, the stage's
queues are repartitioned, the instances are told the new count and resumed, and
then the new ones are started. Shrinking, the excess is stopped first. A failure
to repartition or to start ends the run in `error`; instances that do not follow
do not.
-/
namespace FlowRuntime.Operation

def repartition (stage : String) (partitions : Nat) : Operation Outcome := do
  let answer ← ask (.repartition (← read (·.context.consumerGroup stage partitions)))
  pure (answer.mapError (.within (.repartitioning stage partitions)))

/-- Suspends the targets, repartitions their stage, and only then tells and resumes them. -/
def repartitionAround (stage : String) (targets : List (StageKey × Handle)) (partitions : Nat) :
    Operation Outcome := do
  fanOut .suspend targets
  match ← repartition stage partitions with
  | .error e => pure (.error e)
  | .ok _ =>
    fanOut (.command partitions) targets
    fanOut .resume targets
    pure (.ok ())

def increase (stage : StageSpec) (live target : Nat) : Operation Outcome := do
  match ← repartitionAround stage.name (← read (Registry.stage ·.registry stage.name)) target with
  | .error e => pure (.error e)
  | .ok _ => startInstances stage target (target - live) live

def excess (stage : String) (live target : Nat) (run : Run) : List (StageKey × Handle) :=
  (List.range' target (live - target)).filterMap fun id =>
    (run.registry.get? ⟨stage, id⟩).map (⟨stage, id⟩, ·)

def decrease (stage : StageSpec) (live target : Nat) : Operation Outcome := do
  let excess ← read (excess stage.name live target)
  change (·.release (excess.map (·.1)))
  fanOut .stop excess
  repartitionAround stage.name (← read (Registry.stage ·.registry stage.name)) target

def rescale (stage : StageSpec) (live target : Nat) : Operation Outcome := do
  change Run.countRescale
  let outcome ← if live < target then increase stage live target else decrease stage live target
  change Run.publish
  match outcome with
  | .ok _ => pure (.ok ())
  | .error cause =>
    change Run.countRescaleFailure
    windDown
    transition .error (some cause.chain)
    pure (.error (.rescaleFailed stage.name target cause))

/-- Asking for the number of instances that a stage has changes nothing. -/
def changeInstances (stage : String) (target : Nat) : Operation Outcome :=
  requiring .rescale [.alive] fun run =>
    if target = 0 then .done run (.error (.noInstances stage))
    else match run.context.flow.stage? stage with
      | none => .done run (.error (.unknownStage stage))
      | some spec =>
        let live := Registry.liveCount run.registry stage
        if live = target then .done run (.ok ()) else rescale spec live target run

end FlowRuntime.Operation
