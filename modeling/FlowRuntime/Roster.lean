import FlowRuntime.Program.Identity
import FlowRuntime.SortedMap

/-!
The instances of a run by stage and, within a stage, by number. A stage is kept only
while it has an instance; counts and the question whether there is any instance at all
look at nothing but the stages kept. Numbers and counts are unbounded here: 32 bits hold
them all unless a stage has an instance of every number there is.
-/
namespace FlowRuntime

structure Roster (ρ : Type) where
  stages : SortedMap String (SortedMap Nat ρ)

namespace Roster
variable {ρ : Type}

def empty : Roster ρ := ⟨.empty⟩

/-- Puts an instance in its place and returns the one that had it before. -/
def insert (r : Roster ρ) (key : StageKey) (v : ρ) : Roster ρ × Option ρ :=
  let instances := (r.stages.get? key.stage).getD .empty
  (⟨r.stages.insert key.stage (instances.insert key.instanceId v)⟩,
    instances.get? key.instanceId)

/-- Returns the instance that had the place; its stage goes if none of it is left. -/
def remove (r : Roster ρ) (key : StageKey) : Roster ρ × Option ρ :=
  match r.stages.get? key.stage with
  | none => (r, none)
  | some instances =>
    let left := instances.erase key.instanceId
    let stages := r.stages.insert key.stage left
    (⟨if left.isEmpty then stages.erase key.stage else stages⟩, instances.get? key.instanceId)

def listing (name : String) (instances : SortedMap Nat ρ) : List (StageKey × ρ) :=
  instances.entries.map fun e => (⟨name, e.1⟩, e.2)

def drain (r : Roster ρ) : Roster ρ × List (StageKey × ρ) :=
  (empty, r.stages.entries.flatMap fun e => listing e.1 e.2)

def get? (r : Roster ρ) (key : StageKey) : Option ρ :=
  (r.stages.get? key.stage).bind (·.get? key.instanceId)

def liveCount (r : Roster ρ) (name : String) : Nat :=
  ((r.stages.get? name).map SortedMap.size).getD 0

def instanceIds (r : Roster ρ) (name : String) : List Nat :=
  ((r.stages.get? name).map SortedMap.keys).getD []

def stage (r : Roster ρ) (name : String) : List (StageKey × ρ) :=
  match r.stages.get? name with
  | none => []
  | some instances => listing name instances

def all (r : Roster ρ) : List (StageKey × ρ) := r.stages.keys.flatMap r.stage

def counts (r : Roster ρ) : SortedMap String Nat :=
  .ofList (r.stages.entries.map fun e => (e.1, e.2.size))

def size (r : Roster ρ) : Nat := r.stages.entries.foldl (fun n e => n + e.2.size) 0

def isEmpty (r : Roster ρ) : Bool := r.stages.isEmpty

def isContiguous (r : Roster ρ) : Bool :=
  r.stages.entries.all fun e => e.2.keys = List.range e.2.size

end Roster
end FlowRuntime
