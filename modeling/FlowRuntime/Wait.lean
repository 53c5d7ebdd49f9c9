/-!
Waiting. However long someone is told to wait, after thirty years of 365 days the
wait is over.
-/
namespace FlowRuntime

/-- In milliseconds. -/
def longestWait : Nat := 30 * 365 * 24 * 60 * 60 * 1000

def waitFor (ms : Nat) : Nat := min ms longestWait

def isUp (now : Nat) (due : Option Nat) : Bool := due.any (· ≤ now)

end FlowRuntime
