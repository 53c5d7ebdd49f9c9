import FlowRuntime.Failure
import FlowRuntime.Wait

/-!
Bounded retries with a fixed delay. A policy allows so many attempts, counting the
first; a policy that allows none still makes one. `supply` is the whole history of
an operation under a policy: when each attempt was made and how it ended.
-/
namespace FlowRuntime

structure RetryPolicy where
  delay : Nat
  maxAttempts : Nat
  deriving DecidableEq, Inhabited

def RetryPolicy.fixedDelay (delay maxAttempts : Nat) : RetryPolicy := ⟨delay, max maxAttempts 1⟩

/-- Hands out the delay before each further attempt, while there are any `left`. -/
structure Backoff where
  policy : RetryPolicy
  left : Nat
  deriving DecidableEq, Inhabited

namespace Backoff

def start (policy : RetryPolicy) : Backoff := ⟨policy, policy.maxAttempts - 1⟩

def next? (b : Backoff) : Option (Nat × Backoff) :=
  match b.left with
  | 0 => none
  | left + 1 => some (b.policy.delay, ⟨b.policy, left⟩)

def reset (b : Backoff) : Backoff := start b.policy

end Backoff

structure Supplied (α : Type) where
  attemptsAt : List Nat
  result : Except Failure α

namespace Supplied
variable {α : Type}

def earlier (time : Nat) (s : Supplied α) : Supplied α := ⟨time :: s.attemptsAt, s.result⟩

end Supplied

def exhausted (name : String) (made : Nat) (last : Failure) : Failure :=
  .within (.attempts name made) last

/-- Makes attempt number `n` at `time`, with `left` more to come if it fails. A timer that is
given a delay lets as much time pass as `wait` says. -/
def supplyFrom {α : Type} (wait : Nat → Nat) (name : String) (delay : Nat)
    (attempt : Nat → Except Failure α) : (left n time : Nat) → Supplied α
  | 0, n, time =>
    match attempt n with
    | .ok a => ⟨[time], .ok a⟩
    | .error e => ⟨[time], .error (exhausted name n e)⟩
  | left + 1, n, time =>
    match attempt n with
    | .ok a => ⟨[time], .ok a⟩
    | .error _ =>
      (supplyFrom wait name delay attempt left (n + 1) (time + wait delay)).earlier time

def supplyWaiting {α : Type} (wait : Nat → Nat) (name : String) (policy : RetryPolicy)
    (attempt : Nat → Except Failure α) : Supplied α :=
  supplyFrom wait name policy.delay attempt (Backoff.start policy).left 1 0

def supply {α : Type} (name : String) (policy : RetryPolicy) (attempt : Nat → Except Failure α) :
    Supplied α :=
  supplyWaiting waitFor name policy attempt

end FlowRuntime
