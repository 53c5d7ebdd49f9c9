import FlowRuntime.Rehearsal.Scene

/-!
Calls that a part of a step makes for the run, and the activities they belong to. A
single call is over at a certain time, if ever. A fan-out is over when all of its
errands are: each goes on when a delay of its own ends or when its instance has read
its letter, and is given up at the limit of the fan-out. Whoever can go on does so
before anyone is given up.
-/
namespace FlowRuntime.Rehearsal

def Errand.outcome? : Errand → Option Outcome
  | .ended outcome => some outcome
  | _ => none

/-- A call that is under way, and what follows on its answer. If it is a single one, `fate` says
when it is over and how it then fails; the errands of a fan-out have fates of their own. -/
structure Undertaking (α : Type) where
  call : Call
  fate : Fate
  resume : call.Answer → Activity α

namespace Scene

/-! ### Errands -/

def setErrand (s : Scene) (i : Nat) (e : Errand) : Scene :=
  { s with errands := s.errands.setIfInBounds i e }

def send (s : Scene) (i : Nat) (handle : Handle) (op : InstanceOp) : Scene :=
  match s.world.refusal? handle op with
  | some outcome => s.setErrand i (.ended outcome)
  | none =>
    let isCalled := s.world.isCalled handle
    let s := { s with world := s.world.post handle ⟨s.round, i, op⟩ }.setErrand i (.sent none)
    if isCalled then s else s.wake (.resident handle)

/-- Notes an answer, if it is still waited for, and wakes the part whose turn it is. -/
def noteAnswer (s : Scene) (l : Letter) (outcome : Outcome) : Scene :=
  if l.round ≠ s.round then s
  else match s.errands[l.place]? with
    | some (.sent none) =>
      (s.setErrand l.place (.sent (some outcome))).wakeAll (s.turn.toList.map .part)
    | _ => s

def residentReads (s : Scene) (handle : Handle) : Scene :=
  let (world, answers) := s.world.read handle
  answers.foldl (fun s a => s.noteAnswer a.1 a.2) { s with world := world }

def isOut (s : Scene) (i : Nat) : Bool := s.errands[i]?.any (·.outcome?.isNone)

def isUp (s : Scene) (time : Option Nat) : Bool := time.any (· ≤ s.now)

def givenUpAt (s : Scene) : Option Nat := s.limit.map fun l => s.since + waitFor l

/-- Sees to an errand: first to how it goes on, and then to whether it has to be given up. -/
def attendErrand (s : Scene) (op : InstanceOp) (i : Nat) (handle : Handle) : Scene :=
  let s := match s.errands[i]? with
    | some (.delayed time failure) =>
      if !s.isUp time then s
      else match failure with
        | some text => s.setErrand i (.ended (.error (.reported text)))
        | none => s.send i handle op
    | some (.sent (some outcome)) => s.setErrand i (.ended outcome)
    | _ => s
  if s.isOut i && s.isUp s.givenUpAt then
    s.setErrand i (.ended (.error (.timedOut (s.limit.getD 0))))
  else s

def attendErrands (s : Scene) (op : InstanceOp) (targets : List (StageKey × Handle)) : Scene :=
  targets.zipIdx.foldl (fun s e => s.attendErrand op e.2 e.1.2) s

def cueAt (s : Scene) (time : Option Nat) (place : Nat) : Scene :=
  match time with
  | none => s
  | some time => if s.now < time then s.cue time (.part place) else s

def startErrand (s : Scene) (place : Nat) (op : InstanceOp) (target : StageKey × Handle) : Scene :=
  let (world, fate) := s.world.meet (.request op target.1)
  let time := fate.delay.map (s.now + waitFor ·)
  let i := s.errands.size
  let s := { s with world := world, errands := s.errands.push (.delayed time fate.failure) }
  let s := s.attendErrand op i target.2
  if s.isOut i then (s.cueAt time place).cueAt s.givenUpAt place else s

/-- What became of each, if all of the errands are over. -/
def report? (s : Scene) (targets : List (StageKey × Handle)) : Option (Report StageKey) :=
  (s.errands.toList.mapM Errand.outcome?).map fun outcomes =>
    FanOut.report ((targets.map (·.1)).zip outcomes)

/-! ### Calls -/

/-- Begins a single call. The delay in its fate is from now on the time at which it is over. -/
def beginSingle (s : Scene) (place : Nat) (call : LoggedCall) : Scene × Fate :=
  let (world, fate) := s.world.meet call
  let time := fate.delay.map (s.now + waitFor ·)
  ({ s with world := world }.cueAt time place, ⟨time, fate.failure⟩)

def beginCall (s : Scene) (place : Nat) : Call → Scene × Fate
  | .bind groups => s.beginSingle place (.bind groups)
  | .repartition group => s.beginSingle place (.repartition group)
  | .start options => s.beginSingle place (.start options)
  | .fanOut op targets =>
    let s := { s with round := s.round + 1, since := s.now, errands := #[] }
    (targets.foldl (fun s target => s.startErrand place op target) s, .unharmed)

def single? {α : Type} (s : Scene) (fate : Fate) (go : World → World × Except Failure α) :
    Scene × Option (Except Failure α) :=
  if !s.isUp fate.delay then (s, none)
  else match fate.failure with
    | some text => (s, some (.error (.reported text)))
    | none =>
      let (world, answer) := go s.world
      ({ s with world := world }, some answer)

/-- A new instance has its first turn. -/
def greet (s : Scene) (before : Nat) : Scene :=
  if before < s.world.residents.size then s.wake (.resident before) else s

def answer? (s : Scene) (fate : Fate) : (call : Call) → Scene × Option call.Answer
  | .bind groups => s.single? fate (·.bind groups)
  | .repartition group => s.single? fate (·.repartition group)
  | .start options =>
    let (after, answer) := s.single? fate (·.start options)
    (after.greet s.world.residents.size, answer)
  | .fanOut op targets =>
    let s := s.attendErrands op targets
    (s, s.report? targets)

def drive {α : Type} (s : Scene) (place : Nat) : Activity α → Scene × (Undertaking α ⊕ α)
  | .done run a => (s.see run, .inr a)
  | .waiting run call resume =>
    let (s, fate) := (s.see run).beginCall place call
    match s.answer? fate call with
    | (s, none) => (s, .inl ⟨call, fate, resume⟩)
    | (s, some answer) => (s.dropCues (.part place)).drive place (resume answer)

def goOn {α : Type} (s : Scene) (place : Nat) (u : Undertaking α) :
    Scene × (Undertaking α ⊕ α) :=
  match s.answer? u.fate u.call with
  | (s, none) => (s, .inl u)
  | (s, some answer) => (s.dropCues (.part place)).drive place (u.resume answer)

/-! ### Turns -/

def work (s : Scene) : Player → Scene
  | .part _ => s
  | .resident handle => s.residentReads handle
  | .listener i => s.listenerWorks i

def workRound : Nat → Scene → Scene
  | 0, s => s
  | turns + 1, s =>
    match s.called with
    | [] => s
    | next :: rest => workRound turns ({ s with called := rest }.work next)

end Scene
end FlowRuntime.Rehearsal
