import FlowRuntime.Run.Rescale

/-!
What can be asked of a run that has to wait for its turn. Requests are carried out
one at a time, in the order in which they are made.
-/
namespace FlowRuntime

inductive RunRequest where
  | suspend
  | resume
  | stop
  | changeInstances (stage : String) (instances : Nat)
  | instanceIds (stage : String)
  deriving DecidableEq, Inhabited

inductive RunAnswer where
  | outcome (o : Outcome)
  | ids (ids : List Nat)
  deriving Inhabited

def RunRequest.operation : RunRequest → Operation RunAnswer
  | .suspend => do pure (.outcome (← Operation.suspend))
  | .resume => do pure (.outcome (← Operation.resume))
  | .stop => do pure (.outcome (← Operation.stop))
  | .changeInstances stage instances => do
    pure (.outcome (← Operation.changeInstances stage instances))
  | .instanceIds stage => do
    pure (.ids (← Operation.read (Registry.instanceIds ·.registry stage)))

end FlowRuntime
