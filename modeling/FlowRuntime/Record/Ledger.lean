import FlowRuntime.Record.Store
import FlowRuntime.Retry

/-!
The record store as it is met by those who write. Any attempt may be refused, and the answer
to it may take any time or never come; the store is written to when the answer comes. Every
attempt is logged, with its time and whether it is refused. A write that runs out of
attempts is dropped, and only counted.
-/
namespace FlowRuntime

structure LoggedWrite where
  write : RecordWrite
  time : Nat
  accepted : Bool
  deriving DecidableEq, Inhabited

/-- What the answer to an attempt will be, and how long it takes, if it ever comes. -/
structure Verdict where
  accepted : Bool
  delay : Option Nat

/-- `refuses n` and `delays n` are about the answer to attempt number `n`, counted from zero. Behind the
ledger there may be a store, which may turn down a write that the ledger accepts. -/
structure Ledger where
  run : ProgramRunId
  refuses : Nat → Bool
  delays : Nat → Option Nat
  attempts : Nat
  store : Option RecordStore
  log : List LoggedWrite
  dropped : Nat

namespace Ledger

def empty (run : ProgramRunId) (store : Option RecordStore) : Ledger :=
  ⟨run, fun _ => false, fun _ => some 0, 0, store, [], 0⟩

def refuseNext (l : Ledger) (count : Nat) : Ledger :=
  { l with refuses := fun n => decide (n < l.attempts + count) }

def persist (l : Ledger) (write : RecordWrite) : Ledger × Bool :=
  match l.store with
  | none => (l, true)
  | some store =>
    match RecordStore.write store l.run write with
    | .ok store => ({ l with store := some store }, true)
    | .error _ => (l, false)

def attempt (l : Ledger) (now : Nat) (write : RecordWrite) : Ledger × Verdict :=
  let accepted := !l.refuses l.attempts
  ({ l with attempts := l.attempts + 1, log := l.log ++ [⟨write, now, accepted⟩] },
    ⟨accepted, l.delays l.attempts⟩)

def conclude (l : Ledger) (write : RecordWrite) (accepted : Bool) : Ledger × Bool :=
  if accepted then l.persist write else (l, false)

def droppedReading : String := "hadron_flow_run_record_write_failures_total"

def drop (l : Ledger) : Ledger := { l with dropped := l.dropped + 1 }

end Ledger
end FlowRuntime
