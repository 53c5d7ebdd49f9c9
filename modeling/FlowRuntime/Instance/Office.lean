import FlowRuntime.Instance.Local

/-!
An instance in its office, and those who come to ask something of it at any time. A
request waits in line until there is room in the queue; from the queue the instance takes
one request after the other. A signal to shut down may be heeded before any of them.
Once it has stopped, which everyone can see, the instance only has to leave, and what is
in the queue then is dropped; who is still in line then is turned away. Who asks it to stop and
is granted that waits until it has left; who comes to a stopped instance to ask that is
waved off with the same answer.

Who is let into the queue, whether the instance heeds a signal or takes the next request,
and what happens meanwhile, is left open.
-/
namespace FlowRuntime
namespace Office

/-- A request, and whether the instance could be seen to have stopped when it was issued. -/
structure Asked where
  number : Nat
  op : InstanceOp
  late : Bool
  deriving DecidableEq

inductive Treatment where
  | wavedOff
  | handled (before after : LocalInstance)
  | dropped
  | turnedAway
  deriving DecidableEq

structure Settled where
  asked : Asked
  treatment : Treatment
  answer : LocalInstance.Answer

inductive Presence where
  | working
  | leaving
  | gone
  deriving DecidableEq

end Office

structure Office where
  self : LocalInstance
  presence : Office.Presence
  issued : List Office.Asked
  line : List Office.Asked
  queue : List Office.Asked
  joining : List Office.Settled
  settled : List Office.Settled

namespace Office
open LocalInstance (queueCapacity)

def opened (i : LocalInstance) : Office := ⟨i, .working, [], [], [], [], []⟩

def ask (o : Office) (op : InstanceOp) : Asked := ⟨o.issued.length, op, o.self.state = .stopped⟩

def attend (o : Office) (asked : Asked) : Settled :=
  ⟨asked, .handled o.self (o.self.handle asked.op).1, (o.self.handle asked.op).2⟩

def drop (asked : Asked) : Settled := ⟨asked, .dropped, .error .instanceGone⟩

def turnAway (o : Office) (asked : Asked) : Settled :=
  ⟨asked, .turnedAway, .error (.within (.sending asked.op o.self.key) .instanceGone)⟩

inductive Comes : Office → Office → Prop where
  | asks (o : Office) (op : InstanceOp) (heard : op ≠ .stop ∨ o.self.state ≠ .stopped) :
      Comes o { o with issued := o.issued ++ [o.ask op], line := o.line ++ [o.ask op] }
  | wavedOff (o : Office) (stopped : o.self.state = .stopped) :
      Comes o { o with
        issued := o.issued ++ [o.ask .stop],
        settled := o.settled ++ [⟨o.ask .stop, .wavedOff, .ok ()⟩] }
  | signals (o : Office) (works : o.presence = .working) :
      Comes o { o with self := o.self.shutDown, presence := .leaving }

inductive Works : Office → Office → Prop where
  | admits (o : Office) (before : List Asked) {after : List Asked} {asked : Asked}
      (line : o.line = before ++ asked :: after) (present : o.presence ≠ .gone)
      (room : o.queue.length < queueCapacity) :
      Works o { o with line := before ++ after, queue := o.queue ++ [asked] }
  | handles (o : Office) {asked : Asked} {rest : List Asked} (queue : o.queue = asked :: rest)
      (works : o.presence = .working)
      (goesOn : (o.self.handle asked.op).1.state ≠ .stopped) :
      Works o { o with
        self := (o.self.handle asked.op).1, queue := rest,
        settled := o.settled ++ [o.attend asked] }
  | stops (o : Office) {asked : Asked} {rest : List Asked} (queue : o.queue = asked :: rest)
      (works : o.presence = .working) (stops : (o.self.handle asked.op).1.state = .stopped) :
      Works o { o with
        self := (o.self.handle asked.op).1, presence := .leaving, queue := rest,
        joining := o.joining ++ [o.attend asked] }
  | leaves (o : Office) (stopped : o.presence = .leaving) :
      Works o { o with
        presence := .gone, queue := [], joining := [],
        settled := o.settled ++ o.joining ++ o.queue.map drop }
  | turnsAway (o : Office) (before : List Asked) {after : List Asked} {asked : Asked}
      (line : o.line = before ++ asked :: after) (gone : o.presence = .gone) :
      Works o { o with
        line := before ++ after, settled := o.settled ++ [o.turnAway asked] }

inductive Step (o o' : Office) : Prop where
  | comes (comes : Comes o o')
  | works (works : Works o o')

inductive Becomes (o : Office) : Office → Prop where
  | here : Becomes o o
  | step {mid last : Office} (before : Becomes o mid) (next : Step mid last) : Becomes o last

end Office
end FlowRuntime
