import FlowRuntime.Run.Basic
import Mathlib.Data.List.Basic

/-!
What acceptance of a flow promises. Its stages have distinct names that are not
empty, and each is to have at least one instance, so a stage is found under its
name and the number of instances declared for a name is well defined. Its consumer
groups are of different stages, and have at least one partition each.
-/
namespace FlowRuntime
namespace FlowSpec

theorem checkStages_ok_iff {flow : String} {seen : List String} {stages : List StageSpec} :
    checkStages flow seen stages = .ok () ↔
      (∀ s ∈ stages, s.name ≠ "" ∧ s.instances ≠ 0) ∧ (stages.map (·.name)).Nodup ∧
      ∀ s ∈ stages, s.name ∉ seen := by
  induction stages generalizing seen with
  | nil => simp [checkStages]
  | cons s rest ih =>
    unfold checkStages
    split
    · rename_i unnamed
      simp [unnamed]
    · rename_i named
      split
      · rename_i repeated
        simp [repeated]
      · rename_i unseen
        split
        · rename_i idle
          simp [idle]
        · rename_i busy
          rw [ih]
          simp only [List.mem_cons, List.map_cons, List.nodup_cons, List.mem_map]
          grind

structure Accepted (f : FlowSpec) : Prop where
  some_stage : f.stages ≠ []
  names_nodup : f.stageNames.Nodup
  busy : ∀ s ∈ f.stages, 1 ≤ s.instances.toNat

theorem accepted_of_validate {f : FlowSpec} (valid : f.validate = .ok ()) : Accepted f := by
  unfold validate at valid
  split at valid
  · cases valid
  · rename_i nonempty
    split at valid
    · cases valid
    · rename_i checked
      obtain ⟨each, nodup, _⟩ := checkStages_ok_iff.mp checked
      refine ⟨nonempty, nodup, ?_⟩
      intro s mem
      have nonzero : s.instances.toNat ≠ 0 := by
        intro zero
        exact (each s mem).2 (UInt32.toNat_inj.mp zero)
      omega

def declared (f : FlowSpec) (name : String) : Nat :=
  match f.stage? name with
  | none => 0
  | some s => s.instances.toNat

theorem name_of_stage? {f : FlowSpec} {name : String} {s : StageSpec}
    (found : f.stage? name = some s) : s.name = name := by
  simpa using List.find?_some found

theorem mem_of_stage? {f : FlowSpec} {name : String} {s : StageSpec}
    (found : f.stage? name = some s) : s ∈ f.stages :=
  List.mem_of_find?_eq_some found

theorem stage?_eq_none {f : FlowSpec} {name : String} :
    f.stage? name = none ↔ name ∉ f.stageNames := by
  rw [stage?, List.find?_eq_none]
  simp [stageNames]

theorem Accepted.stage?_name {f : FlowSpec} (accepted : Accepted f) {s : StageSpec}
    (mem : s ∈ f.stages) : f.stage? s.name = some s := by
  -- The first stage of the name is this one, as there is no other.
  have nodup := accepted.names_nodup
  unfold stage? stageNames at *
  generalize f.stages = stages at mem nodup
  induction stages with
  | nil => simp at mem
  | cons head rest ih =>
    simp only [List.map_cons, List.nodup_cons] at nodup
    rcases List.mem_cons.mp mem with here | later
    · simp [here]
    · have apart : head.name ≠ s.name := by
        intro same
        exact nodup.1 (same ▸ List.mem_map_of_mem later)
      simp [apart, ih later nodup.2]

theorem declared_lt (f : FlowSpec) (name : String) : f.declared name < UInt32.size := by
  unfold declared
  cases f.stage? name with
  | none => decide
  | some spec => exact spec.instances.toNat_lt_size

theorem Accepted.declared_name {f : FlowSpec} (accepted : Accepted f) {s : StageSpec}
    (mem : s ∈ f.stages) : f.declared s.name = s.instances.toNat := by
  simp [declared, accepted.stage?_name mem]

theorem Accepted.lt_declared_iff {f : FlowSpec} (accepted : Accepted f) {name : String} {id : Nat} :
    id < f.declared name ↔ ∃ s ∈ f.stages, s.name = name ∧ id < s.instances.toNat := by
  constructor
  · intro lt
    unfold declared at lt
    split at lt
    · omega
    · rename_i s found
      exact ⟨s, mem_of_stage? found, name_of_stage? found, lt⟩
  · rintro ⟨s, mem, rfl, lt⟩
    rwa [accepted.declared_name mem]

theorem Accepted.declared_pos_iff {f : FlowSpec} (accepted : Accepted f) {name : String} :
    1 ≤ f.declared name ↔ name ∈ f.stageNames := by
  unfold declared
  split
  · rename_i missing
    simp [stage?_eq_none.mp missing]
  · rename_i s found
    have here := name_of_stage? found
    have mem := mem_of_stage? found
    simp only [accepted.busy s mem, true_iff]
    exact here ▸ List.mem_map_of_mem mem

end FlowSpec

namespace Binding
variable {b : Binding} {program : ProgramId} {f : FlowSpec}

theorem mem_consumerGroups {spec : StageSpec} (declared : spec ∈ f.stages) {queue : QueueName}
    (consumed : queue ∈ b.queues spec.name) :
    ⟨spec.name, groupId program spec.name, spec.instances.toNat, b.queues spec.name⟩ ∈
      b.consumerGroups program f := by
  refine List.mem_map.mpr ⟨spec, List.mem_filter.mpr ⟨declared, ?_⟩, rfl⟩
  cases found : b.stages.get? spec.name with
  | none => simp [queues, found] at consumed
  | some queues => simp [SortedMap.contains, found]

theorem consumerGroups_busy (accepted : f.Accepted) :
    ∀ g ∈ b.consumerGroups program f, g.partitions ≠ 0 := by
  intro g mem
  obtain ⟨spec, declared, rfl⟩ := List.mem_map.mp mem
  exact Nat.ne_of_gt (accepted.busy spec (List.mem_of_mem_filter declared))

theorem consumerGroups_stages :
    ((b.consumerGroups program f).map (·.stage)).Sublist f.stageNames := by
  rw [consumerGroups, List.map_map]
  exact List.filter_sublist.map StageSpec.name

theorem consumerGroups_ids :
    ((b.consumerGroups program f).map (·.groupId)).Sublist
      (f.stageNames.map (groupId program)) := by
  have ids : (b.consumerGroups program f).map (·.groupId) =
      ((b.consumerGroups program f).map (·.stage)).map (groupId program) := by
    simp [consumerGroups]
  exact ids ▸ consumerGroups_stages.map _

end Binding

theorem RunContext.accepted_of_ofProgram {program : Program} {options : RunOptions} {c : RunContext}
    (made : RunContext.ofProgram program options = .ok c) : c.flow.Accepted := by
  unfold RunContext.ofProgram at made
  split at made
  · cases made
  · split at made
    · cases made
    · split at made
      · cases made
      · rename_i valid
        cases made
        exact FlowSpec.accepted_of_validate valid

end FlowRuntime
