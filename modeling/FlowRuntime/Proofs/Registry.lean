import FlowRuntime.Proofs.SortedMap
import FlowRuntime.Registry

/-!
What a registry lists. A registry is numbered by counts if the instances of every
stage have the numbers from zero up to the stage's count; then a listing of a stage
is known from its count, and holding more instances at the end, or letting go of
the last ones, leaves the registry numbered.
-/
namespace FlowRuntime.Registry
variable {ρ : Type}

theorem compare_same_stage (s : String) (i j : Nat) :
    compare (⟨s, i⟩ : StageKey) ⟨s, j⟩ = compare i j := by
  change (compare s s).then (compare i j) = compare i j
  simp

theorem mem_stage {r : Registry ρ} {name : String} {key : StageKey} {v : ρ} :
    (key, v) ∈ stage r name ↔ key.stage = name ∧ r.get? key = some v := by
  simp [stage, SortedMap.mem_entries, and_comm]

theorem stage_congr {r r' : Registry ρ} {name : String}
    (same : ∀ key : StageKey, key.stage = name → r.get? key = r'.get? key) :
    stage r name = stage r' name := by
  have listed (m : Registry ρ) (key : StageKey) (v : ρ) :
      (m.filter fun k _ => k.stage = name).get? key = some v ↔
        key.stage = name ∧ m.get? key = some v := by
    rw [← SortedMap.mem_entries]
    exact mem_stage
  have equal : (r.filter fun k _ => k.stage = name) = r'.filter fun k _ => k.stage = name := by
    apply SortedMap.ext_get?
    intro key
    apply Option.ext
    intro v
    rw [listed, listed]
    apply and_congr_right
    intro here
    rw [same key here]
  exact congrArg SortedMap.entries equal

theorem mem_instanceIds {r : Registry ρ} {name : String} {id : Nat} :
    id ∈ instanceIds r name ↔ (⟨name, id⟩ : StageKey) ∈ r.keys := by
  rw [SortedMap.mem_keys]
  constructor
  · intro mem
    obtain ⟨⟨⟨s, i⟩, v⟩, listed, same⟩ := List.mem_map.mp mem
    obtain ⟨here, found⟩ := mem_stage.mp listed
    simp only at same here
    subst same here
    exact ⟨v, found⟩
  · intro ⟨v, found⟩
    exact List.mem_map.mpr ⟨(⟨name, id⟩, v), mem_stage.mpr ⟨rfl, found⟩, rfl⟩

theorem stage_keys (r : Registry ρ) (name : String) :
    (stage r name).map (·.1) = (instanceIds r name).map (StageKey.mk name) := by
  rw [instanceIds, List.map_map]
  apply List.map_congr_left
  intro e mem
  have here : e.1.stage = name := (mem_stage.mp mem).1
  simp [← here]

theorem instanceIds_ascending (r : Registry ρ) (name : String) :
    (instanceIds r name).Pairwise (· < ·) := by
  -- Keys ascend by stage first, so those of one stage ascend by their numbers.
  apply List.pairwise_map.mpr
  apply (r.ascending.filter _).imp_of_mem
  rintro ⟨⟨s, i⟩, v⟩ ⟨⟨s', j⟩, w⟩ first second lt
  obtain ⟨rfl, _⟩ := mem_stage.mp first
  obtain ⟨rfl, _⟩ := mem_stage.mp second
  rw [compare_same_stage] at lt
  exact Nat.compare_eq_lt.mp lt

theorem length_instanceIds (r : Registry ρ) (name : String) :
    (instanceIds r name).length = liveCount r name :=
  List.length_map _

theorem isContiguous_iff {r : Registry ρ} :
    isContiguous r ↔ ∀ name, instanceIds r name = List.range (liveCount r name) := by
  simp only [isContiguous, List.all_eq_true, decide_eq_true_eq]
  constructor
  · intro numbered name
    cases held : stage r name with
    | nil => simp [instanceIds, liveCount, held]
    | cons first others =>
      have listed : first ∈ stage r name := by simp [held]
      have here : first.1.stage = name := (mem_stage.mp listed).1
      exact here ▸ numbered first (List.mem_of_mem_filter listed)
  · intro numbered e _
    exact numbered e.1.stage

theorem get?_counts (r : Registry ρ) (name : String) :
    (counts r).get? name = if 0 < liveCount r name then some (liveCount r name) else none := by
  have known : 0 < liveCount r name ↔ name ∈ r.entries.map (·.1.stage) := by
    simp [liveCount, stage, List.length_pos_iff, List.filter_eq_nil_iff]
  rw [counts, SortedMap.get?_foldl_insert (fun e : StageKey × ρ => e.1.stage) (liveCount r),
    SortedMap.get?_empty]
  simp only [known]

theorem getD_counts (r : Registry ρ) (name : String) :
    ((counts r).get? name).getD 0 = liveCount r name := by
  rw [get?_counts]
  split
  · rfl
  · simp only [Option.getD_none]
    omega

theorem places_nodup (name : String) (first more : Nat) :
    ((List.range' first more).map (StageKey.mk name)).Nodup := by
  apply List.Nodup.map _ List.nodup_range'
  intro i j same
  injection same

/-- The instances of each stage are numbered from zero up to its count. -/
def Numbered (r : Registry ρ) (count : String → Nat) : Prop :=
  ∀ key, key ∈ r.keys ↔ key.instanceId < count key.stage

section
variable {r : Registry ρ} {count : String → Nat}

theorem Numbered.instanceIds (numbered : Numbered r count) (name : String) :
    instanceIds r name = List.range (count name) := by
  have perm : (Registry.instanceIds r name).Perm (List.range (count name)) := by
    have nodup := (instanceIds_ascending r name).imp Nat.ne_of_lt
    apply (List.perm_ext_iff_of_nodup nodup List.nodup_range).mpr
    intro id
    rw [mem_instanceIds, numbered, List.mem_range]
  apply perm.eq_of_pairwise _ (instanceIds_ascending r name) List.pairwise_lt_range
  intro a b _ _ lt gt
  omega

theorem Numbered.liveCount (numbered : Numbered r count) (name : String) :
    liveCount r name = count name := by
  rw [← length_instanceIds, numbered.instanceIds, List.length_range]

theorem Numbered.stage_keys (numbered : Numbered r count) (name : String) :
    (stage r name).map (·.1) = (List.range (count name)).map (StageKey.mk name) := by
  rw [Registry.stage_keys, numbered.instanceIds]

theorem Numbered.insertAll (numbered : Numbered r count) {name : String} {more : Nat}
    {entries : List (StageKey × ρ)}
    (keys : entries.map (·.1) = (List.range' (count name) more).map (StageKey.mk name)) :
    Numbered (SortedMap.insertAll r entries)
      (Function.update count name (count name + more)) := by
  intro ⟨s, id⟩
  rw [SortedMap.mem_keys_insertAll, keys, numbered]
  by_cases here : s = name
  · subst here
    simp
    omega
  · simp [here, Ne.symm here]

theorem Numbered.eraseAll (numbered : Numbered r count) {name : String} {target : Nat}
    (fewer : target ≤ count name) :
    Numbered (((List.range' target (count name - target)).map (StageKey.mk name)).foldl
      SortedMap.erase r) (Function.update count name target) := by
  intro ⟨s, id⟩
  rw [SortedMap.mem_keys_eraseAll, numbered]
  by_cases here : s = name
  · subst here
    simp
    omega
  · simp [here, Ne.symm here]

theorem Numbered.lt_of_held (numbered : Numbered r count) {key : StageKey} {v : ρ}
    (held : r.get? key = some v) : key.instanceId < count key.stage :=
  (numbered key).mp (SortedMap.mem_keys.mpr ⟨v, held⟩)

theorem Numbered.get?_eq_none (numbered : Numbered r count) {key : StageKey}
    (beyond : count key.stage ≤ key.instanceId) : r.get? key = none := by
  cases found : r.get? key with
  | none => rfl
  | some v =>
    have within := numbered.lt_of_held found
    omega

end
end FlowRuntime.Registry
