import FlowRuntime.Rehearsal.Round

/-!
A whole rehearsal: a program is started with planned faults and taken through a
series of steps. Of the start and of each step there is an account: what was found,
how long it took, and all that the run and its listeners did until nothing was left
to be done. The clock of each step starts at zero. A step that is still going on at
the deadline is the last.
-/
namespace FlowRuntime.Rehearsal

/-- `clock ms` is what the clock on the wall shows so many milliseconds after the start. If there is a
`store`, records are also kept in it; `refuses` and `delays` say how it answers each attempt to write. A
listener has a name, and takes its time as its pace says. -/
structure Plan where
  program : Program
  options : RunOptions
  clock : Nat → Int64
  limit : Option Nat
  policy : RetryPolicy
  faults : List Fault
  refuses : Nat → Bool
  delays : Nat → Option Nat
  store : Option RecordStore
  listeners : List (String × List (Option Nat))
  steps : List Step

/-- There is no finding if the step was still going on at the deadline. The readings are those
which changed. -/
structure Account where
  finding : Option Finding
  ms : Nat
  state : RunState
  counts : SortedMap String Nat
  calls : List LoggedCall
  readings : SortedMap String Nat
  instances : SortedMap StageKey InstanceState
  writes : List LoggedWrite

structure Performance where
  start : Account
  steps : List Account
  listeners : List (String × List Notice)
  ending : Option RecordStore
  isOver : Bool

/-- How things stand between two steps, and the readings of the last account. -/
structure Interval where
  scene : Scene
  readings : SortedMap String Nat

namespace Interval

def resume (i : Interval) : Scene :=
  { i.scene with
    now := 0
    world.calls := []
    audience.ledger.log := []
    audience.past := i.scene.audience.past + i.scene.now }

/-- Lets what goes on in a scene come to its end, and gives the account of it. -/
def close (i : Interval) (finding : Option Finding) (s : Scene) : Interval × Account :=
  let ms := s.now
  let s := s.settle
  let dropped := s.audience.ledger.dropped
  let readings := if dropped = 0 then s.run.metrics.readings
    else s.run.metrics.readings.insert Ledger.droppedReading dropped
  let account : Account :=
    { finding := finding
      ms := ms
      state := s.run.state
      counts := s.run.counts
      calls := s.world.calls.reverse
      readings := readings.filter fun name value => i.readings.get? name ≠ some value
      instances := s.world.states
      writes := s.audience.ledger.log }
  (⟨s, readings⟩, account)

def play (i : Interval) (step : Step) : Interval × Account :=
  let (result, s) := i.resume.play (.ofStep 0 0 step)
  i.close (result.map (·.2)) s

def playAll (i : Interval) : List Step → Interval × List Account
  | [] => (i, [])
  | step :: rest =>
    let (i, account) := i.play step
    if account.finding.isNone then (i, [account])
    else
      let (i, accounts) := i.playAll rest
      (i, account :: accounts)

end Interval

namespace Plan

def ledger (p : Plan) (context : RunContext) : Ledger :=
  { Ledger.empty context.run p.store with refuses := p.refuses, delays := p.delays }

/-- Before the start, with the turn given to the one part that there is. -/
def opening (p : Plan) (context : RunContext) : Scene where
  now := 0
  limit := p.limit
  run := .starting context
  world := .empty p.faults
  watched := none
  audience := .empty (p.ledger context) p.policy p.clock
  cues := []
  stirred := []
  called := []
  joiners := []
  turn := some 0
  line := []
  round := 0
  since := 0
  errands := #[]

/-- A run is listened to as soon as it has started, first of all by its recorder. -/
def listenAll (p : Plan) (s : Scene) : Scene :=
  p.listeners.foldl (fun s l => s.listenFor l.1 none l.2) s.record

def start (p : Plan) (context : RunContext) : Interval × Account :=
  let opening := p.opening context
  let startRun := Finding.outcome <$> Operation.start
  let (s, act) := Scene.settleCall (opening.drive 0 (startRun opening.run))
  let (result, s) := s.play (.solo 0 act)
  let finding := result.map (·.2)
  let s := match finding with
    | some (.outcome (.ok _)) => p.listenAll s
    | _ => s
  Interval.close ⟨opening, .empty⟩ finding s

def refused (e : Failure) : Account :=
  ⟨some (.outcome (.error e)), 0, .starting, .empty, [], .empty, .empty, []⟩

def perform (p : Plan) : Performance :=
  match RunContext.ofProgram p.program p.options with
  | .error e => ⟨refused e, [], [], p.store, false⟩
  | .ok context =>
    match p.start context with
    | (i, account) =>
      let (i, accounts) := match account.finding with
        | some (.outcome (.ok _)) => i.playAll p.steps
        | _ => (i, [])
      let s := i.scene
      let listeners := s.audience.listeners.toList.filterMap fun
        | .hearer h => some (h.name, h.heard)
        | .recorder _ => none
      ⟨account, accounts, listeners, s.audience.ledger.store, s.run.state.isTerminal⟩

end Plan
end FlowRuntime.Rehearsal
