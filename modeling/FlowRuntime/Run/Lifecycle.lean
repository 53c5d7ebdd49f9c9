import FlowRuntime.Run.Activity

/-!
Starting, suspending, resuming and stopping a whole run. A start is all or
nothing: queues are bound, then every declared instance is started, one at a time
and in the order of declaration, and the first failure stops what has been
started. Later on, instances that do not follow are counted and the run goes on
without them.
-/
namespace FlowRuntime.Operation

def bindQueues : Operation Outcome := do
  let context ← read (·.context)
  let answer ← ask (.bind context.consumerGroups)
  pure (answer.mapError (.within (.bindingQueues context.run)))

def startStages : List StageSpec → Operation Outcome
  | [] => pure (.ok ())
  | stage :: rest => do
    match ← startInstances stage stage.instances.toNat stage.instances.toNat 0 with
    | .error e => pure (.error e)
    | .ok _ => startStages rest

def start : Operation Outcome := do
  match ← bindQueues with
  | .error e => pure (.error e)
  | .ok _ =>
    match ← startStages (← read (·.context.flow.stages)) with
    | .error e =>
      stopAll
      pure (.error (.startupFailed e))
    | .ok _ =>
      change Run.publish
      transition .alive none
      pure (.ok ())

def suspend : Operation Outcome :=
  requiring .suspend [.alive] do
    transition .suspending none
    fanOut .suspend (← read (·.registry.all))
    transition .suspended none
    pure (.ok ())

def resume : Operation Outcome :=
  requiring .resume [.suspended] do
    transition .resuming none
    fanOut .resume (← read (·.registry.all))
    transition .alive none
    pure (.ok ())

/-- Brings the instances down; how the run ends is for the caller to say. -/
def windDown : Operation Unit := do
  transition .stopping none
  stopAll
  change Run.publish

/-- A stopped run may be stopped again. -/
def stop : Operation Outcome := fun run =>
  if run.state = .stopped then .done run (.ok ())
  else
    requiring .stop [.starting, .alive, .suspended] (do
      windDown
      transition .stopped none
      pure (.ok ())) run

end FlowRuntime.Operation
