import FlowRuntime.Run.State

/-!
What a listener has been told and has not handled yet. It is told first how the
run stands, and then of every change until the run ends; added to a run that has
ended, it is told of the end twice, as the state it found and as the last change.
How fast it handles what it is told makes no difference to anyone else.
-/
namespace FlowRuntime

structure Inbox where
  pending : List Notice
  isOpen : Bool
  deriving DecidableEq, Inhabited

namespace Inbox

/-- Of a listener that is added when the run stands so and the time is `secs`. -/
def added (state : RunState) (cause : Option String) (secs : Int64) : Inbox :=
  let first : Notice := ⟨⟨none, state, cause⟩, secs⟩
  if state.isTerminal then ⟨[first, { first with source := some state }], false⟩
  else ⟨[first], true⟩

def tell (i : Inbox) (n : Notice) : Inbox :=
  if i.isOpen then ⟨i.pending ++ [n], !n.target.isTerminal⟩ else i

def closed : Inbox := ⟨[], false⟩

end Inbox
end FlowRuntime
