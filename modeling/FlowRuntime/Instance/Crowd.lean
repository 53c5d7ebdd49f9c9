import FlowRuntime.FanOut
import FlowRuntime.Instance.Local

/-!
Many requests issued at once. An instance has room for so many letters; who finds none
stands in line until the instance has read one. To send a letter, to take an answer,
and to see a stopped instance out are moves, of which a crowd has so many in a round;
who finds none left steps back. Between two rounds the instances read their letters,
and those who stepped back come again, the last one first.

An instance that stops turns away those in line, and drops the letters it has not
read.
-/
namespace FlowRuntime

/-- Who posted a letter with the last move does not heed the answer before coming again. -/
inductive Petition.Stage where
  | new
  | inLine (admitted : Bool)
  | posted (heeding : Bool)
  | answered (a : LocalInstance.Answer)
  | leaving
  | ended (a : LocalInstance.Answer)
  deriving Inhabited

structure Petition where
  target : Nat
  op : InstanceOp
  stage : Petition.Stage
  deriving Inhabited

def Petition.answer? (p : Petition) : Option LocalInstance.Answer :=
  match p.stage with
  | .ended a => some a
  | _ => none

/-- An instance, its unread letters, how many more there is room for, and who waits for room.
Petitions go by their places in the crowd. -/
structure Desk where
  self : LocalInstance
  letters : List Nat
  room : Nat
  line : List Nat
  isCalled : Bool
  deriving DecidableEq, Inhabited

/-- Those who step back are kept newest first. -/
structure Crowd where
  desks : Array Desk
  petitions : Array Petition
  limit : Option Nat
  moves : Nat
  ready : List Nat
  back : List Nat
  called : List Nat

namespace Crowd

def movesInRound : Nat := 128

def turnsInRound : Nat := 61

/-- One move of the first round is gone before it starts. -/
def gather (instances : List LocalInstance) (requests : List (Nat × InstanceOp))
    (limit : Option Nat) : Crowd where
  desks := (instances.map fun i => Desk.mk i [] LocalInstance.queueCapacity [] false).toArray
  petitions := (requests.map fun r => Petition.mk r.1 r.2 .new).toArray
  limit := limit
  moves := movesInRound - 1
  ready := List.range requests.length
  back := []
  called := []

def setStage (c : Crowd) (i : Nat) (stage : Petition.Stage) : Crowd :=
  { c with petitions := c.petitions.modify i fun p => { p with stage := stage } }

def finish (c : Crowd) (i : Nat) (a : LocalInstance.Answer) : Crowd := c.setStage i (.ended a)

def isOver (c : Crowd) (i : Nat) : Bool := c.petitions[i]?.all (·.answer?.isSome)

def wake (c : Crowd) (i : Nat) : Crowd :=
  if i ∈ c.ready then c else { c with ready := c.ready ++ [i] }

def stepBack (c : Crowd) (i : Nat) : Crowd :=
  if c.back.head? = some i then c else { c with back := i :: c.back }

def spend (c : Crowd) : Crowd := { c with moves := c.moves - 1 }

def modifyDesk (c : Crowd) (d : Nat) (f : Desk → Desk) : Crowd :=
  { c with desks := c.desks.modify d f }

/-- Makes room for one letter, which goes to the first in line. -/
def makeRoom (c : Crowd) (d : Nat) : Crowd :=
  match c.desks[d]?.map (·.line) with
  | some (first :: rest) =>
    let c := c.modifyDesk d fun desk => { desk with line := rest }
    (c.setStage first (.inLine true)).wake first
  | _ => c.modifyDesk d fun desk => { desk with room := desk.room + 1 }

def post (c : Crowd) (i d : Nat) : Crowd :=
  let isCalled := c.desks[d]?.any (·.isCalled)
  let c := c.modifyDesk d fun desk => { desk with letters := desk.letters ++ [i], isCalled := true }
  let c := if isCalled then c else { c with called := c.called ++ [d] }
  if c.moves = 0 then (c.setStage i (.posted false)).stepBack i else c.setStage i (.posted true)

def send (c : Crowd) (i d : Nat) (desk : Desk) (op : InstanceOp) (waited : Option Bool) : Crowd :=
  if c.moves = 0 then c.stepBack i
  else if desk.self.state = .stopped then
    c.spend.finish i (.error (.within (.sending op desk.self.key) .instanceGone))
  else match waited with
    | some true => c.spend.post i d
    | some false => c
    | none =>
      if desk.room = 0 then
        let c := c.modifyDesk d fun desk => { desk with line := desk.line ++ [i] }
        c.setStage i (.inLine false)
      else (c.modifyDesk d fun desk => { desk with room := desk.room - 1 }).spend.post i d

def seeOut (c : Crowd) (i : Nat) : Crowd :=
  if c.moves = 0 then (c.setStage i .leaving).stepBack i else c.spend.finish i (.ok ())

def attend (c : Crowd) (i : Nat) : Crowd :=
  match c.petitions[i]? with
  | none => c
  | some p =>
    match c.desks[p.target]? with
    | none => c
    | some desk =>
      match p.stage with
      | .new =>
        if p.op = .stop && desk.self.state = .stopped then c.finish i (.ok ())
        else c.send i p.target desk p.op none
      | .inLine admitted => c.send i p.target desk p.op (some admitted)
      | .posted _ => if c.moves = 0 then c.stepBack i else c.setStage i (.posted true)
      | .answered a =>
        if c.moves = 0 then c.stepBack i
        else if p.op = .stop && a.isOk then c.spend.seeOut i
        else c.spend.finish i a
      | .leaving => c.seeOut i
      | .ended _ => c

/-- Gives a petition up. Whatever room it was given goes to the next in line. -/
def giveUp (c : Crowd) (i limit : Nat) : Crowd :=
  let after := c.finish i (.error (.timedOut limit))
  match c.petitions[i]? with
  | some ⟨d, _, .inLine true⟩ => after.makeRoom d
  | some ⟨d, _, .inLine false⟩ =>
    after.modifyDesk d fun desk => { desk with line := desk.line.erase i }
  | _ => after

/-- Sees to a petition that is given up, if there is no time at all, once it can go no further. That
takes a move, unless the petition itself has just made the last one. -/
def attendInTime (c : Crowd) (i : Nat) : Crowd :=
  let after := c.attend i
  match c.limit with
  | none => after
  | some limit =>
    if after.isOver i then after
    else if after.moves = 0 then
      if c.moves = 0 then after.stepBack i
      else if limit = 0 then after.giveUp i limit else after
    else if limit = 0 then after.spend.giveUp i limit else after

/-- Sees to those who are ready. `waiting` are not done yet; after `left` in a row who are not done
then either, the others wait for the next round. -/
def serve : (fuel waiting left : Nat) → Crowd → Crowd
  | 0, _, _, c => c
  | fuel + 1, waiting, left, c =>
    match c.ready with
    | [] => c
    | i :: rest =>
      let c := { c with ready := rest }
      if c.isOver i then serve fuel waiting left c
      else
        let c := c.attendInTime i
        if c.isOver i then serve fuel (waiting - 1) (waiting - 1) c
        else if left ≤ 1 then c
        else serve fuel waiting (left - 1) c

def answer (c : Crowd) (i : Nat) (a : LocalInstance.Answer) : Crowd :=
  match c.petitions[i]? with
  | some ⟨_, _, .posted true⟩ => (c.setStage i (.answered a)).wake i
  | some ⟨_, _, .posted false⟩ => c.setStage i (.answered a)
  | _ => c

def readAll (d : Nat) : List Nat → Crowd → Crowd
  | [], c => c
  | i :: rest, c =>
    match c.desks[d]?, c.petitions[i]? with
    | some desk, some p =>
      let (self, a) := desk.self.handle p.op
      let c := (c.makeRoom d).modifyDesk d fun desk => { desk with self := self }
      let c := c.answer i a
      if self.state = .stopped then
        let c := ((c.desks[d]?.map (·.line)).getD []).foldl wake c
        let c := c.modifyDesk d fun desk => { desk with line := [] }
        rest.foldl (fun c i => c.answer i (.error .instanceGone)) c
      else readAll d rest c
    | _, _ => c

def read (c : Crowd) (d : Nat) : Crowd :=
  let letters := (c.desks[d]?.map (·.letters)).getD []
  readAll d letters (c.modifyDesk d fun desk => { desk with letters := [], isCalled := false })

def readRound : Nat → Crowd → Crowd
  | 0, c => c
  | turns + 1, c =>
    match c.called with
    | [] => c
    | d :: rest => readRound turns ({ c with called := rest }.read d)

def betweenRounds (c : Crowd) : Crowd :=
  let c := readRound turnsInRound c
  { c.back.foldl wake c with back := [], moves := movesInRound }

def waitingCount (c : Crowd) : Nat := (c.petitions.filter (·.answer?.isNone)).size

def rounds : Nat → Crowd → Crowd
  | 0, c => c
  | left + 1, c =>
    let waiting := c.waitingCount
    if waiting = 0 then readRound c.called.length c
    else
      let turns := (c.petitions.size + 2) * (c.petitions.size + 2)
      rounds left (serve turns waiting waiting c).betweenRounds

/-- Plays it all out. At least in every other round somebody makes a move, and nobody makes more
than three. -/
def play (c : Crowd) : Crowd := rounds (8 * c.petitions.size + 8) c

def instances (c : Crowd) : List LocalInstance := c.desks.toList.map (·.self)

def answers (c : Crowd) : List (Option LocalInstance.Answer) := c.petitions.toList.map (·.answer?)

end Crowd
end FlowRuntime
