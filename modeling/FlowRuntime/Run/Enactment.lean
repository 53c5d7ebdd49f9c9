import Mathlib.Logic.Function.Basic
import FlowRuntime.Run.Activity

/-!
An activity that is enacted among instances that do as they like. An instance may be ready
at any time or never, differently each time that it is asked; nothing but what it is asked
itself makes a difference to it. Whoever answers a single call may take any time, or never
answer. A fan-out asks all its targets, and takes as long as `bestEffort` says.
-/
namespace FlowRuntime

/-- When an instance is ready with what it is asked, and how it is afterwards: if it was heard out, or
if it was given up before. -/
structure Conduct (σ : Type) where
  arrival : Arrival
  heardOut : σ
  givenUp : σ

def Conduct.after {σ : Type} (c : Conduct σ) (limit : Option Nat) : σ :=
  if c.arrival.readyAt.any (FanOut.inTime waitFor limit c.arrival) then c.heardOut else c.givenUp

/-- Those around a run. Single calls go by how many calls were answered before, and some are never
answered; a fan-out is none of them. -/
structure Surroundings (σ : Type) where
  serve : Handle → InstanceOp → σ → Conduct σ
  born : Handle → InstanceOptions → σ
  single : Nat → (call : Call) → Option (Nat × call.Answer)

structure Reply (σ : Type) (call : Call) where
  ms : Nat
  answer : call.Answer
  crew : Handle → σ

namespace Surroundings
variable {σ : Type} (w : Surroundings σ) (limit : Option Nat)

def askAll (op : InstanceOp) : List (StageKey × Handle) → (Handle → σ) →
    List (StageKey × Arrival) × (Handle → σ)
  | [], crew => ([], crew)
  | (key, h) :: rest, crew =>
    let conduct := w.serve h op (crew h)
    let others := askAll op rest (Function.update crew h (conduct.after limit))
    ((key, conduct.arrival) :: others.1, others.2)

def welcome (options : InstanceOptions) (answer : Except Failure Handle) (crew : Handle → σ) :
    Handle → σ :=
  match answer with
  | .ok h => Function.update crew h (w.born h options)
  | .error _ => crew

/-- What comes of a call, if it is ever answered. -/
def reply (n : Nat) (crew : Handle → σ) : (call : Call) → Option (Reply σ call)
  | .bind groups => (w.single n (.bind groups)).map fun r => ⟨r.1, r.2, crew⟩
  | .repartition group => (w.single n (.repartition group)).map fun r => ⟨r.1, r.2, crew⟩
  | .start options =>
    (w.single n (.start options)).map fun r => ⟨r.1, r.2, w.welcome options r.2 crew⟩
  | .fanOut op targets =>
    let asked := w.askAll limit op targets crew
    (FanOut.bestEffort limit asked.1).map fun r => ⟨r.2, r.1, asked.2⟩

end Surroundings

/-- What was exchanged and how long each time, how the instances are then, and what is left to do. -/
structure Enactment (σ α : Type) where
  timed : List (Exchange × Nat)
  crew : Handle → σ
  rest : Activity α

def Activity.enact {σ α : Type} (w : Surroundings σ) (limit : Option Nat) :
    Activity α → Nat → (Handle → σ) → Enactment σ α
  | .done run x, _, crew => ⟨[], crew, .done run x⟩
  | .waiting run call resume, n, crew =>
    match w.reply limit n crew call with
    | none => ⟨[], crew, .waiting run call resume⟩
    | some r =>
      let later := (resume r.answer).enact w limit (n + 1) r.crew
      ⟨(⟨call, r.answer⟩, r.ms) :: later.timed, later.crew, later.rest⟩

end FlowRuntime
