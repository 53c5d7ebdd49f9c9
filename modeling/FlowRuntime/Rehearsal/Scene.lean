import FlowRuntime.Rehearsal.Step
import FlowRuntime.Rehearsal.World
import FlowRuntime.Run.Description

/-!
What a step of a rehearsal is played on, in virtual time. Nothing takes time but the
delays of faults and of retries, and sleep. Whoever has something to do is woken; the
parts of the step are seen to whenever one of them is, and instances and listeners
take their turns one after the other, in the order in which they were woken. A wait
ends with a cue.
-/
namespace FlowRuntime.Rehearsal

/-- Parts go by their places in the step, the others by their numbers. -/
inductive Player where
  | part (place : Nat)
  | resident (handle : Handle)
  | listener (index : Nat)
  deriving DecidableEq, Inhabited

structure Cue where
  time : Nat
  player : Player
  deriving DecidableEq, Inhabited

inductive Errand where
  | delayed (due : Option Nat) (failure : Option String)
  | sent (answer : Option Outcome)
  | ended (outcome : Outcome)
  deriving Inhabited

/-- Cues are in the order in which the waits began. `stirred` are the parts that were woken and have
not been seen to since, and `called` the others that were woken. The run's turn is with one part at
a time, and `line` waits for it. The errands are those of fan-out number `round`, which began at
`since`. -/
structure Scene where
  now : Nat
  limit : Option Nat
  run : Run
  world : World
  watched : Option Nat
  audience : Audience
  cues : List Cue
  stirred : List Nat
  called : List Player
  joiners : List Nat
  turn : Option Nat
  line : List Nat
  round : Nat
  since : Nat
  errands : Array Errand

namespace Scene

def wake (s : Scene) : Player → Scene
  | .part place =>
    if place ∈ s.stirred then s else { s with stirred := s.stirred ++ [place] }
  | other => { s with called := s.called ++ [other] }

def wakeAll (s : Scene) (players : List Player) : Scene := players.foldl wake s

/-- One cue is enough for a player and a time. -/
def cue (s : Scene) (time : Nat) (player : Player) : Scene :=
  if ⟨time, player⟩ ∈ s.cues then s else { s with cues := s.cues ++ [⟨time, player⟩] }

def dropCues (s : Scene) (player : Player) : Scene :=
  { s with cues := s.cues.filter (·.player ≠ player) }

def nextCue? (s : Scene) : Option Nat := (s.cues.map (·.time)).min?

def advance (s : Scene) (time : Nat) : Scene :=
  let s' := { s with now := time, cues := s.cues.filter (time < ·.time) }
  s'.wakeAll ((s.cues.filter (·.time ≤ time)).map (·.player))

/-! ### The run, its instances and its listeners -/

def secs (s : Scene) : Int64 := s.audience.clock (s.audience.past + s.now)

/-- Takes the run as it stands now; what has been added to its story is told to all listeners. -/
def see (s : Scene) (run : Run) : Scene :=
  let news := run.story.drop s.run.story.length
  news.foldl (fun s t =>
    let woken := s.audience.idle.map Player.listener
    { s with audience := s.audience.tell ⟨t, s.secs⟩ }.wakeAll woken) { s with run := run }

def listen (s : Scene) (l : Listener) : Scene :=
  { s with audience := s.audience.add l }.wake (.listener s.audience.listeners.size)

def inbox (s : Scene) : Inbox := .added s.run.state s.run.cause s.secs

def listenFor (s : Scene) (name : String) (fears : Option RunState) (pace : List (Option Nat)) :
    Scene :=
  s.listen (.hearer (.added name fears pace s.inbox))

def record (s : Scene) : Scene :=
  s.listen (.recorder (.added s.run.context.options s.audience.policy s.inbox))

def shutDown (s : Scene) : Scene :=
  let woken := (List.range s.world.residents.size).filter fun h =>
    s.world.residents[h]?.any fun r => !r.isCalled && r.self.state ≠ .stopped
  { s with world := s.world.shutDown }.wakeAll (woken.map .resident)

/-- Has a listener work. Those who wait for listeners see to it if it is over. -/
def listenerWorks (s : Scene) (i : Nat) : Scene :=
  let audience := s.audience.work s.now i
  let s := { s with audience := audience }
  match audience.listeners[i]? with
  | none => s
  | some l =>
    let s := if l.isOver then s.wakeAll (s.joiners.map .part) else s
    match l.dueAt? with
    | none => s
    | some time => s.cue time (.listener i)

/-! ### The run's turn -/

/-- Whether the turn is taken at once; if not, the part stands in line for it. -/
def takeTurn (s : Scene) (place : Nat) : Scene × Bool :=
  if s.turn.isNone then ({ s with turn := some place }, true)
  else ({ s with line := s.line ++ [place] }, false)

def passTurn (s : Scene) : Scene :=
  match s.line with
  | [] => { s with turn := none }
  | next :: rest => { s with turn := some next, line := rest }.wake (.part next)

/-! ### The end of a step -/

/-- Leaves a step. What was still going on in it is left where it is. -/
def leave (s : Scene) : Scene :=
  { s with
    cues := s.cues.filter fun c => c.player matches .listener _
    stirred := []
    joiners := []
    turn := none
    line := []
    round := s.round + 1
    errands := #[] }

end Scene
end FlowRuntime.Rehearsal
