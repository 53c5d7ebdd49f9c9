/-!
The states of a run, what can be asked of it, and the changes of state that are
told to listeners. A run ends in `stopped` or in `error`.
-/
namespace FlowRuntime

inductive RunState where
  | starting
  | alive
  | suspending
  | suspended
  | resuming
  | stopping
  | stopped
  | error
  deriving DecidableEq, Inhabited

namespace RunState

def all : List RunState :=
  [.starting, .alive, .suspending, .suspended, .resuming, .stopping, .stopped, .error]

def text : RunState → String
  | .starting => "starting"
  | .alive => "alive"
  | .suspending => "suspending"
  | .suspended => "suspended"
  | .resuming => "resuming"
  | .stopping => "stopping"
  | .stopped => "stopped"
  | .error => "error"

def isTerminal : RunState → Bool
  | .stopped | .error => true
  | _ => false

end RunState

inductive RunVerb where
  | suspend
  | resume
  | stop
  | rescale
  deriving DecidableEq, Inhabited

def RunVerb.text : RunVerb → String
  | .suspend => "suspend"
  | .resume => "resume"
  | .stop => "stop"
  | .rescale => "rescale"

/-- Without a state before, if it is the first thing that a listener hears. -/
structure Transition where
  source : Option RunState
  target : RunState
  cause : Option String
  deriving DecidableEq, Inhabited

/-- Whether nothing can follow this for a listener: the first thing it hears never ends it. -/
def Transition.isLast (t : Transition) : Bool := t.source.isSome && t.target.isTerminal

/-- A change of state as listeners are told of it, with the time that the clock on the wall showed. -/
structure Notice extends Transition where
  secs : Int64
  deriving DecidableEq, Inhabited

end FlowRuntime
