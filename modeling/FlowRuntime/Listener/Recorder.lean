import FlowRuntime.Listener.Inbox
import FlowRuntime.Record.Ledger

/-!
The listener that keeps the run's record. It handles what it is told in order, one
at a time, and makes at most one write of each: it attempts the write, waits for the
answer, and attempts it again until it is done or the retry policy is spent, and only
then looks at what it was told next.
-/
namespace FlowRuntime

/-- What a recorder waits for: the answer to an attempt, or the time of the next. -/
inductive Pause where
  | answer (accepted : Bool)
  | backoff
  deriving DecidableEq, Inhabited

/-- A write that is to be gone on with. So many attempts are `left` after the one that has been made, or
that comes next. -/
structure Stay where
  pause : Pause
  dueAt : Option Nat
  left : Nat
  deriving DecidableEq, Inhabited

structure Writing where
  write : RecordWrite
  stay : Stay
  isLast : Bool
  deriving DecidableEq, Inhabited

structure Recorder where
  options : RunOptions
  policy : RetryPolicy
  inbox : Inbox
  writing : Option Writing
  isOver : Bool
  deriving DecidableEq, Inhabited

namespace Recorder

def added (options : RunOptions) (policy : RetryPolicy) (inbox : Inbox) : Recorder :=
  ⟨options, policy, inbox, none, false⟩

def heed (write : RecordWrite) (accepted : Bool) (otherwise : Ledger → Ledger × Option Stay)
    (ledger : Ledger) : Ledger × Option Stay :=
  match ledger.conclude write accepted with
  | (ledger, true) => (ledger, none)
  | (ledger, false) => otherwise ledger

def attempt (now : Nat) (write : RecordWrite) (left : Nat)
    (otherwise : Ledger → Ledger × Option Stay) (ledger : Ledger) : Ledger × Option Stay :=
  match ledger.attempt now write with
  | (ledger, verdict) =>
    if verdict.delay = some 0 then heed write verdict.accepted otherwise ledger
    else (ledger, some ⟨.answer verdict.accepted, verdict.delay.map (now + ·), left⟩)

def retry (now : Nat) (write : RecordWrite) (delay : Nat) :
    (left : Nat) → Ledger → Ledger × Option Stay
  | 0, ledger => (ledger.drop, none)
  | left + 1, ledger =>
    if delay = 0 then attempt now write left (retry now write delay left) ledger
    else (ledger, some ⟨.backoff, some (now + waitFor delay), left⟩)

/-- Attempts a write at this time, as often as it may; what is left to do later if that is not the
end of it. -/
def supply (now : Nat) (write : RecordWrite) (delay left : Nat) (ledger : Ledger) :
    Ledger × Option Stay :=
  attempt now write left (retry now write delay left) ledger

def goOn (now : Nat) (write : RecordWrite) (delay : Nat) (stay : Stay) (ledger : Ledger) :
    Ledger × Option Stay :=
  match stay.pause with
  | .answer accepted => heed write accepted (retry now write delay stay.left) ledger
  | .backoff => supply now write delay stay.left ledger

def handleAll (r : Recorder) (now : Nat) : List Notice → Ledger → Recorder × Ledger
  | [], ledger => ({ r with inbox.pending := [] }, ledger)
  | n :: rest, ledger =>
    let after (ledger : Ledger) : Recorder × Ledger :=
      if n.isLast then ({ r with inbox := .closed, isOver := true }, ledger)
      else r.handleAll now rest ledger
    match RecordWrite.ofNotice? r.options n with
    | none => after ledger
    | some write =>
      match supply now write r.policy.delay (Backoff.start r.policy).left ledger with
      | (ledger, none) => after ledger
      | (ledger, some stay) =>
        ({ r with inbox.pending := rest, writing := some ⟨write, stay, n.isLast⟩ }, ledger)

def work (r : Recorder) (now : Nat) (ledger : Ledger) : Recorder × Ledger :=
  match r.writing with
  | none => r.handleAll now r.inbox.pending ledger
  | some w =>
    if !isUp now w.stay.dueAt then (r, ledger)
    else match goOn now w.write r.policy.delay w.stay ledger with
      | (ledger, some stay) => ({ r with writing := some { w with stay := stay } }, ledger)
      | (ledger, none) =>
        if w.isLast then ({ r with inbox := .closed, writing := none, isOver := true }, ledger)
        else { r with writing := none }.handleAll now r.inbox.pending ledger

end Recorder
end FlowRuntime
