/-!
The states of an instance and the requests it can be sent.
-/
namespace FlowRuntime

inductive InstanceState where
  | alive
  | suspended
  | stopped
  | error
  deriving DecidableEq, Inhabited

namespace InstanceState

def all : List InstanceState := [.alive, .suspended, .stopped, .error]

def text : InstanceState → String
  | .alive => "alive"
  | .suspended => "suspended"
  | .stopped => "stopped"
  | .error => "error"

end InstanceState

/-- A command tells an instance how many instances its stage has now. -/
inductive InstanceOp where
  | suspend
  | resume
  | stop
  | command (instances : Nat)
  deriving DecidableEq, Inhabited

def InstanceOp.text : InstanceOp → String
  | .suspend => "Suspend"
  | .resume => "Resume"
  | .stop => "Stop"
  | .command n => "Command(Instances(" ++ toString n ++ "))"

end FlowRuntime
