import FlowRuntime.Deployment
import FlowRuntime.Rehearsal.Performance
import FlowRuntime.Settings

/-!
A whole process, rehearsed: the spec of the application is read, the configured
flow is started, and it is stopped as soon as it has been. Nothing is at fault but
what the process was given.
-/
namespace FlowRuntime.Rehearsal.Service

def program (settings : Settings) (spec : Option String) : Except Failure Program :=
  match Deployment.ofFile settings.flowSpecPath spec with
  | .error e => .error e
  | .ok d => (d.load settings.programId).mapError (.within .loadingProgram)

def plan (settings : Settings) (options : RunOptions) (program : Program) : Plan where
  program := program
  options := options
  clock := fun _ => options.runId.createdSecs
  limit := settings.fanOutTimeout
  policy := settings.retryPolicy
  faults := []
  refuses := fun _ => false
  delays := fun _ => some 0
  store := some .empty
  listeners := []
  steps := [.one (.turn .stop), .one (.aside .join)]

def serve (settings : Settings) (spec : Option String) (options : RunOptions) :
    Outcome × RecordStore :=
  match program settings spec with
  | .error e => (.error e, .empty)
  | .ok program =>
    let p := (plan settings options program).perform
    let outcome : Outcome := match p.start.finding with
      | some (.outcome o) => o.mapError (.within .startingFlow)
      | _ => .ok ()
    (outcome, p.ending.getD .empty)

end FlowRuntime.Rehearsal.Service
