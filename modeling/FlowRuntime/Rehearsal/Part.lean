import FlowRuntime.Rehearsal.Call

/-!
The parts of a step. A step that is one request is played solo; one of several steps
is played by an ensemble, and over when all of them are. Seen to, a part goes on as
far as it can. The members of an ensemble are seen to in their order, except that in
a large one only those are seen to that were woken, in the order in which they were.
-/
namespace FlowRuntime.Rehearsal

inductive Act where
  | ahead (after : Nat) (request : Request)
  | waiting (due : Nat) (request : Request)
  | inLine (request : RunRequest)
  | calling (u : Undertaking Finding)
  | resting (due : Nat)
  | joining (listeners : List Nat) (due : Nat)
  | ended (time : Nat) (finding : Finding)

inductive Entrance where
  | ahead (after : Nat)
  | waiting (due : Nat)
  | begun (time : Nat)

/-- Parts are numbered, an ensemble before its members; `size` counts it and all within it. -/
inductive Part where
  | solo (place : Nat) (act : Act)
  | ensemble (place size : Nat) (entrance : Entrance) (members : List Part)

namespace Part

mutual

/-- The part of a step, with numbers from `place` on. -/
def ofStep (place after : Nat) : Step → Part
  | .one request => .solo place (.ahead after request)
  | .together items =>
    let (members, next) := ofItems (place + 1) items
    .ensemble place (next - place) (.ahead after) members

def ofItems (place : Nat) : List (Nat × Step) → List Part × Nat
  | [] => ([], place)
  | (after, step) :: rest =>
    let part := ofStep place after step
    let size := match part with
      | .solo _ _ => 1
      | .ensemble _ size _ _ => size
    let (parts, next) := ofItems (place + size) rest
    (part :: parts, next)

end

def holds (place : Nat) : Part → Bool
  | solo p _ => place = p
  | ensemble p size _ _ => p ≤ place && place < p + size

mutual

def result? : Part → Option (Nat × Finding)
  | solo _ (.ended time finding) => some (time, finding)
  | solo _ _ => none
  | ensemble _ _ (.begun time) members =>
    (results? members).map fun found =>
      (found.foldl (fun latest f => max latest f.1) time,
        .together (found.map fun f => (f.2, f.1 - time)))
  | ensemble _ _ _ _ => none

def results? : List Part → Option (List (Nat × Finding))
  | [] => some []
  | p :: rest =>
    match p.result?, results? rest with
    | some found, some others => some (found :: others)
    | _, _ => none

def depth : Part → Nat
  | solo _ _ => 1
  | ensemble _ _ _ members => depthOf members + 1

def depthOf : List Part → Nat
  | [] => 0
  | p :: rest => max p.depth (depthOf rest)

end

end Part

def Finding.ofAnswer : RunAnswer → Finding
  | .outcome result => .outcome result
  | .ids found => .ids found

namespace Scene

def joinLimit : Nat := 1800000

def partitionsOf (s : Scene) (stage : String) : Finding :=
  let group := s.run.context.consumerGroup stage 0
  .partitions (s.world.partitioner.stagePartitions? stage)
    (group.queues.map fun q => (q, s.world.partitioner.partitions? q group.groupId))

def joiningAct (s : Scene) (listeners : List Nat) (due : Nat) : Act :=
  if s.audience.areOver listeners then .ended s.now (.joined true)
  else if due ≤ s.now then .ended s.now (.joined false)
  else .joining listeners due

def join (s : Scene) (place : Nat) : Scene × Act :=
  let listeners := s.audience.unjoined
  let due := s.now + joinLimit
  let s := { s with audience := s.audience.join, joiners := s.joiners ++ [place] }
  (s.cue due (.part place), s.joiningAct listeners due)

def rest (s : Scene) (place ms : Nat) : Scene × Act :=
  let due := s.now + waitFor ms
  if due ≤ s.now then (s, .ended s.now .done) else (s.cue due (.part place), .resting due)

def attend (s : Scene) (place : Nat) : Aside → Scene × Act
  | .counts => (s, .ended s.now (.counts s.run.counts))
  | .state => (s, .ended s.now (.state s.run.state))
  | .cause => (s, .ended s.now (.cause s.run.cause))
  | .describe => (s, .ended s.now (.description s.run.description))
  | .info => (s, .ended s.now (.info s.run.context))
  | .watch =>
    ({ s with watched := some s.run.story.length },
      .ended s.now (.watched (s.watched ≠ some s.run.story.length) s.run.state))
  | .partitions stage => (s, .ended s.now (s.partitionsOf stage))
  | .heard name => (s, .ended s.now (.heard (s.audience.heardBy? name)))
  | .plan fault => ({ s with world.faults := s.world.faults ++ [fault] }, .ended s.now .done)
  | .clearFaults => ({ s with world.faults := [] }, .ended s.now .done)
  | .shutDown => (s.shutDown, .ended s.now .done)
  | .refuseWrites count =>
    ({ s with audience.ledger := s.audience.ledger.refuseNext count }, .ended s.now .done)
  | .listen name fears pace => (s.listenFor name fears pace, .ended s.now .done)
  | .record => (s.record, .ended s.now .done)
  | .sleep ms => s.rest place ms
  | .join => s.join place

def settleCall (now : Scene × (Undertaking Finding ⊕ Finding)) : Scene × Act :=
  match now with
  | (s, .inl u) => (s, .calling u)
  | (s, .inr finding) => (s.passTurn, .ended s.now finding)

def carryOut (s : Scene) (place : Nat) (request : RunRequest) : Scene × Act :=
  let operation := Finding.ofAnswer <$> request.operation
  settleCall (s.drive place (operation s.run))

def begin (s : Scene) (place : Nat) : Request → Scene × Act
  | .aside a => s.attend place a
  | .turn request =>
    match s.takeTurn place with
    | (s, true) => s.carryOut place request
    | (s, false) => (s, .inLine request)

def seeTo (s : Scene) (place : Nat) : Act → Scene × Act
  | .ahead after request =>
    let due := s.now + waitFor after
    if due ≤ s.now then s.begin place request
    else (s.cue due (.part place), .waiting due request)
  | .waiting due request =>
    if due ≤ s.now then s.begin place request else (s, .waiting due request)
  | .inLine request =>
    if s.turn = some place then s.carryOut place request else (s, .inLine request)
  | .calling u => settleCall (s.goOn place u)
  | .resting due => if due ≤ s.now then (s, .ended s.now .done) else (s, .resting due)
  | .joining listeners due => (s, s.joiningAct listeners due)
  | .ended time finding => (s, .ended time finding)

def enter (s : Scene) (place : Nat) : Entrance → Scene × Entrance
  | .ahead after =>
    let due := s.now + waitFor after
    if due ≤ s.now then (s, .begun s.now) else (s.cue due (.part place), .waiting due)
  | .waiting due => if due ≤ s.now then (s, .begun s.now) else (s, .waiting due)
  | .begun time => (s, .begun time)

def unstir (s : Scene) (place : Nat) : Scene := { s with stirred := s.stirred.erase place }

end Scene

namespace Part

/-- The most members of an ensemble that are all seen to each time. -/
def smallEnsemble : Nat := 30

def seeToEach (see : Part → Scene → Part × Scene) : List Part → Scene → List Part × Scene
  | [], s => ([], s)
  | p :: rest, s =>
    let (p, s) := see p s
    let (rest, s) := seeToEach see rest s
    (p :: rest, s)

/-- As long as a member is stirred, sees to the one that has been for longest. -/
def seeToStirred (see : Part → Scene → Part × Scene) : (fuel : Nat) → List Part → Scene →
    List Part × Scene
  | 0, members, s => (members, s)
  | fuel + 1, members, s =>
    match s.stirred.findSome? fun place => members.findIdx? (·.holds place) with
    | none => (members, s)
    | some i =>
      match members[i]? with
      | none => (members, s)
      | some p =>
        let (p, s) := see p s
        seeToStirred see fuel (members.set i p) s

/-- Sees to a part and to those within it, up to some depth. -/
def seeTo : (depth : Nat) → Part → Scene → Part × Scene
  | _, solo place act, s =>
    let (s, act) := (s.unstir place).seeTo place act
    (solo place act, s)
  | 0, p, s => (p, s)
  | depth + 1, ensemble place size entrance members, s =>
    let wasBegun := entrance matches .begun _
    match (s.unstir place).enter place entrance with
    | (s, .begun time) =>
      let (members, s) :=
        if wasBegun && smallEnsemble < members.length then (members, s)
        else seeToEach (seeTo depth) members s
      let (members, s) :=
        if smallEnsemble < members.length then
          seeToStirred (seeTo depth) (size * size) members s
        else (members, s)
      (ensemble place size (.begun time) members, s)
    | (s, entrance) => (ensemble place size entrance members, s)

end Part
end FlowRuntime.Rehearsal
