import FlowRuntime.Listener.Recorder

/-!
All the listeners of a run and the ledger that their records go to. News reaches all
of them at once; each works through what it was told when it has its turn, and stops
only where it has to wait: for the store, before a further attempt to write, or because
it takes its time. They never act back on the run.
-/
namespace FlowRuntime

/-- What a listener is at work on, and whether it listens no longer when it is done with it. -/
structure Hearing where
  dueAt : Option Nat
  quits : Bool
  deriving DecidableEq, Inhabited

/-- A listener that keeps a list of what it heard. It takes its time over everything it hears, as `pace`
says of one after the other, and none over what there is beyond that. It dies of hearing of the state
it fears. -/
structure Hearer where
  name : String
  fears : Option RunState
  pace : List (Option Nat)
  inbox : Inbox
  heard : List Notice
  hearing : Option Hearing
  isOver : Bool
  deriving DecidableEq, Inhabited

namespace Hearer

def added (name : String) (fears : Option RunState) (pace : List (Option Nat)) (inbox : Inbox) :
    Hearer :=
  ⟨name, fears, pace, inbox, [], none, false⟩

def quits (h : Hearer) (n : Notice) : Bool := h.fears = some n.target || n.isLast

def hearAll (h : Hearer) (now : Nat) : List Notice → Hearer
  | [] => { h with inbox.pending := [] }
  | n :: rest =>
    let takes := h.pace.headD (some 0)
    let h := { h with pace := h.pace.tail, heard := h.heard ++ [n] }
    if takes = some 0 then
      if h.quits n then { h with inbox := .closed, isOver := true } else h.hearAll now rest
    else { h with inbox.pending := rest, hearing := some ⟨takes.map (now + ·), h.quits n⟩ }

def work (h : Hearer) (now : Nat) : Hearer :=
  match h.hearing with
  | none => h.hearAll now h.inbox.pending
  | some hearing =>
    if !isUp now hearing.dueAt then h
    else if hearing.quits then { h with inbox := .closed, hearing := none, isOver := true }
    else { h with hearing := none }.hearAll now h.inbox.pending

end Hearer

inductive Listener where
  | hearer (h : Hearer)
  | recorder (r : Recorder)
  deriving DecidableEq, Inhabited

namespace Listener

def tell (n : Notice) : Listener → Listener
  | .hearer h => .hearer { h with inbox := h.inbox.tell n }
  | .recorder r => .recorder { r with inbox := r.inbox.tell n }

def work (now : Nat) (ledger : Ledger) : Listener → Listener × Ledger
  | .hearer h => (.hearer (h.work now), ledger)
  | .recorder r => let (r, ledger) := r.work now ledger; (.recorder r, ledger)

def isOver : Listener → Bool
  | .hearer h => h.isOver
  | .recorder r => r.isOver

def waits? : Listener → Option (Option Nat)
  | .hearer h => h.hearing.map (·.dueAt)
  | .recorder r => r.writing.map (·.stay.dueAt)

def dueAt? (l : Listener) : Option Nat := l.waits?.join

def isReady (l : Listener) (now : Nat) : Bool := l.waits?.all (isUp now)

def isIdle : Listener → Bool
  | .hearer h => h.inbox.isOpen && h.inbox.pending.isEmpty && h.hearing.isNone
  | .recorder r => r.inbox.isOpen && r.inbox.pending.isEmpty && r.writing.isNone

end Listener

/-- The listeners in the order in which they were added. The first `joined` of them have been waited
for, or are being waited for. The clock on the wall shows `clock ms` so many milliseconds from the first
step on, `past` of which lie before the current one. -/
structure Audience where
  listeners : Array Listener
  ledger : Ledger
  policy : RetryPolicy
  clock : Nat → Int64
  past : Nat
  joined : Nat

namespace Audience

def empty (ledger : Ledger) (policy : RetryPolicy) (clock : Nat → Int64) : Audience :=
  ⟨#[], ledger, policy, clock, 0, 0⟩

def add (a : Audience) (l : Listener) : Audience := { a with listeners := a.listeners.push l }

def heardBy? (a : Audience) (name : String) : Option (List Notice) :=
  a.listeners.toList.reverse.findSome? fun
    | .hearer h => if h.name = name then some h.heard else none
    | .recorder _ => none

def idle (a : Audience) : List Nat :=
  (List.range a.listeners.size).filter fun i => a.listeners[i]?.any (·.isIdle)

def tell (a : Audience) (n : Notice) : Audience :=
  { a with listeners := a.listeners.map (·.tell n) }

def work (a : Audience) (now i : Nat) : Audience :=
  match a.listeners[i]? with
  | none => a
  | some l =>
    let (l, ledger) := l.work now a.ledger
    { a with listeners := a.listeners.setIfInBounds i l, ledger := ledger }

def areOver (a : Audience) (listeners : List Nat) : Bool :=
  listeners.all fun i => a.listeners[i]?.any (·.isOver)

def unjoined (a : Audience) : List Nat :=
  List.range' a.joined (a.listeners.size - a.joined)

def join (a : Audience) : Audience := { a with joined := a.listeners.size }

end Audience
end FlowRuntime
