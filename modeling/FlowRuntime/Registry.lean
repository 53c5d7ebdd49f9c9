import FlowRuntime.Program.Identity
import FlowRuntime.SortedMap

/-!
The instances a run holds, by their place in the run. Listings go by stage and
then by number. A stage is known only while it has an instance.
-/
namespace FlowRuntime

abbrev Registry (ρ : Type) := SortedMap StageKey ρ

namespace Registry
variable {ρ : Type}

def all (r : Registry ρ) : List (StageKey × ρ) := r.entries

def stage (r : Registry ρ) (name : String) : List (StageKey × ρ) :=
  r.entries.filter (·.1.stage = name)

def instanceIds (r : Registry ρ) (name : String) : List Nat :=
  (stage r name).map (·.1.instanceId)

def liveCount (r : Registry ρ) (name : String) : Nat := (stage r name).length

def counts (r : Registry ρ) : SortedMap String Nat :=
  r.entries.foldl (fun m e => m.insert e.1.stage (liveCount r e.1.stage)) .empty

def isContiguous (r : Registry ρ) : Bool :=
  r.entries.all fun e => instanceIds r e.1.stage = List.range (liveCount r e.1.stage)

end Registry
end FlowRuntime
