import FlowRuntime.Failure
import FlowRuntime.Wait

/-!
Best-effort fan-out: all participants start at once, none waits for another, and
what became of each is reported in the order in which they were given. A limit
turns a participant that is not ready by then into a failure; one that is ready as
soon as it is looked at is in time even at the limit. Without a limit, one
participant that never becomes ready keeps the whole fan-out from returning.
-/
namespace FlowRuntime

/-- When a participant is ready, counted from the start of the fan-out, and with what. One that
needs another to act at that time is not ready as soon as it is looked at: it is not `prompt`. -/
structure Arrival where
  readyAt : Option Nat
  prompt : Bool
  outcome : Except Failure Unit

def Arrival.after (ms : Nat) (outcome : Except Failure Unit) : Arrival :=
  ⟨some (waitFor ms), true, outcome⟩

def Arrival.never : Arrival := ⟨none, true, .ok ()⟩

structure Report (κ : Type) where
  succeeded : List κ
  failed : List (κ × Failure)
  deriving DecidableEq, Inhabited

def Report.isOk {κ : Type} (r : Report κ) : Bool := r.failed.isEmpty

namespace FanOut
variable {κ : Type} (wait : Nat → Nat)

def inTime (limit : Option Nat) (a : Arrival) (t : Nat) : Bool :=
  match limit with
  | none => true
  | some limit => t < wait limit || (t = wait limit && a.prompt)

/-- When a participant is done with, and how; nothing if it is waited for without end. -/
def settle (limit : Option Nat) (a : Arrival) : Option (Nat × Except Failure Unit) :=
  let given : Option (Nat × Except Failure Unit) :=
    limit.map fun l => (wait l, .error (.timedOut l))
  match a.readyAt with
  | none => given
  | some t => if inTime wait limit a t then some (t, a.outcome) else given

def settleAll (limit : Option Nat) : List (κ × Arrival) →
    Option (List (κ × Nat × Except Failure Unit))
  | [] => some []
  | (k, a) :: rest =>
    match settle wait limit a, settleAll limit rest with
    | some s, some ss => some ((k, s) :: ss)
    | _, _ => none

def report (outcomes : List (κ × Except Failure Unit)) : Report κ where
  succeeded := outcomes.filterMap fun o =>
    match o.2 with
    | .ok _ => some o.1
    | .error _ => none
  failed := outcomes.filterMap fun o =>
    match o.2 with
    | .ok _ => none
    | .error e => some (o.1, e)

def duration (settled : List (κ × Nat × Except Failure Unit)) : Nat :=
  settled.foldr (fun s longest => max s.2.1 longest) 0

def bestEffortBy (limit : Option Nat) (items : List (κ × Arrival)) : Option (Report κ × Nat) :=
  (settleAll wait limit items).map fun settled =>
    (report (settled.map fun s => (s.1, s.2.2)), duration settled)

def bestEffort (limit : Option Nat) (items : List (κ × Arrival)) : Option (Report κ × Nat) :=
  bestEffortBy waitFor limit items

end FanOut
end FlowRuntime
