import FlowRuntime.Proofs.Registry
import FlowRuntime.Proofs.Text.Bytes
import FlowRuntime.Roster
import Mathlib.Data.Finmap

/-!
A roster answers as the finite map from keys to instances that the same calls make. What
is preserved is that no stage is kept without an instance and that look-ups are those of
the map; listings, counts and numbers are then determined, since keys ascend by stage and
then by number. A registry is such a map in one piece, and lists the same.
-/
namespace FlowRuntime.Roster
variable {ρ : Type}

/-! ### Look-ups -/

def Occupied (r : Roster ρ) : Prop :=
  ∀ name instances, r.stages.get? name = some instances → instances.isEmpty = false

theorem get?_eq_some_iff {r : Roster ρ} {key : StageKey} {v : ρ} :
    r.get? key = some v ↔ ∃ instances, r.stages.get? key.stage = some instances ∧
      instances.get? key.instanceId = some v :=
  Option.bind_eq_some_iff

theorem exists_of_occupied {r : Roster ρ} (occupied : Occupied r) {name : String}
    {instances : SortedMap Nat ρ} (kept : r.stages.get? name = some instances) :
    ∃ id v, r.get? ⟨name, id⟩ = some v := by
  have some_held : ¬ ∀ id, instances.get? id = none := by
    rw [← SortedMap.isEmpty_iff, occupied name instances kept]
    exact Bool.false_ne_true
  obtain ⟨id, held⟩ := not_forall.mp some_held
  obtain ⟨v, found⟩ := Option.ne_none_iff_exists'.mp held
  exact ⟨id, v, get?_eq_some_iff.mpr ⟨instances, kept, found⟩⟩

theorem insert_answer (r : Roster ρ) (key : StageKey) (v : ρ) :
    (r.insert key v).2 = r.get? key := by
  unfold insert get?
  cases r.stages.get? key.stage with
  | none => rfl
  | some instances => rfl

theorem remove_answer (r : Roster ρ) (key : StageKey) : (r.remove key).2 = r.get? key := by
  unfold remove get?
  cases r.stages.get? key.stage with
  | none => rfl
  | some instances => rfl

theorem key_eq_iff {k key : StageKey} :
    k = key ↔ k.stage = key.stage ∧ k.instanceId = key.instanceId := by
  cases k
  cases key
  simp

theorem get?_insert (r : Roster ρ) (key k : StageKey) (v : ρ) :
    (r.insert key v).1.get? k = if k = key then some v else r.get? k := by
  simp only [get?, insert, SortedMap.get?_insert, key_eq_iff]
  by_cases here : k.stage = key.stage
  · rw [here]
    cases r.stages.get? key.stage with
    | none => simp [SortedMap.get?_insert]
    | some instances => simp [SortedMap.get?_insert]
  · simp [here]

theorem stages_remove {r : Roster ρ} {key : StageKey} {instances : SortedMap Nat ρ}
    (kept : r.stages.get? key.stage = some instances) (name : String) :
    (r.remove key).1.stages.get? name =
      if name = key.stage then
        if (instances.erase key.instanceId).isEmpty then none
        else some (instances.erase key.instanceId)
      else r.stages.get? name := by
  unfold remove
  rw [kept]
  dsimp only
  by_cases here : name = key.stage
  · subst here
    split <;> simp [SortedMap.get?_erase]
  · split <;> simp [SortedMap.get?_erase, SortedMap.get?_insert_ne _ here, Ne.symm here]

theorem remove_of_none {r : Roster ρ} {key : StageKey} (gone : r.stages.get? key.stage = none) :
    r.remove key = (r, none) := by
  unfold remove
  rw [gone]

theorem get?_kept (left : SortedMap Nat ρ) (id : Nat) :
    (if left.isEmpty then none else some left).bind (·.get? id) = left.get? id := by
  split
  next bare => exact (SortedMap.isEmpty_iff.mp bare id).symm
  next => rfl

theorem get?_remove (r : Roster ρ) (key k : StageKey) :
    (r.remove key).1.get? k = if k = key then none else r.get? k := by
  cases kept : r.stages.get? key.stage with
  | none =>
    rw [remove_of_none kept]
    split
    next here => simp [get?, here, kept]
    next => rfl
  | some instances =>
    simp only [get?, stages_remove kept, key_eq_iff]
    by_cases here : k.stage = key.stage
    · rw [if_pos here, get?_kept, SortedMap.get?_erase, here, kept]
      simp [eq_comm (a := key.instanceId)]
    · simp [here]

theorem Occupied.empty : Occupied (empty : Roster ρ) := by
  intro name instances kept
  cases kept

theorem Occupied.insert {r : Roster ρ} (occupied : Occupied r) (key : StageKey) (v : ρ) :
    Occupied (r.insert key v).1 := by
  intro name instances kept
  simp only [Roster.insert, SortedMap.get?_insert] at kept
  split at kept
  · have held : instances.get? key.instanceId = some v := by
      rw [← Option.some.inj kept, SortedMap.get?_insert_self]
    by_contra bare
    rw [SortedMap.isEmpty_iff.mp (by simpa using bare)] at held
    cases held
  · exact occupied name instances kept

theorem Occupied.remove {r : Roster ρ} (occupied : Occupied r) (key : StageKey) :
    Occupied (r.remove key).1 := by
  cases here : r.stages.get? key.stage with
  | none =>
    rw [remove_of_none here]
    exact occupied
  | some held =>
    intro name instances kept
    rw [stages_remove here] at kept
    split at kept
    · split at kept
      · cases kept
      next some_left =>
        rw [← Option.some.inj kept]
        simpa using some_left
    · exact occupied name instances kept

/-! ### Listings -/

theorem mem_listing {name : String} {instances : SortedMap Nat ρ} {key : StageKey} {v : ρ} :
    (key, v) ∈ listing name instances ↔
      key.stage = name ∧ instances.get? key.instanceId = some v := by
  obtain ⟨s, i⟩ := key
  rw [← SortedMap.mem_entries]
  constructor
  · intro mem
    obtain ⟨⟨id, w⟩, entry, same⟩ := List.mem_map.mp mem
    cases same
    exact ⟨rfl, entry⟩
  · rintro ⟨rfl, entry⟩
    exact List.mem_map.mpr ⟨(i, v), entry, rfl⟩

theorem listing_ascending (name : String) (instances : SortedMap Nat ρ) :
    (listing name instances).Pairwise fun e e' => compare e.1 e'.1 = .lt := by
  apply List.pairwise_map.mpr
  apply instances.ascending.imp
  intro e e' lt
  rw [Registry.compare_same_stage]
  exact lt

theorem mem_stage {r : Roster ρ} {name : String} {key : StageKey} {v : ρ} :
    (key, v) ∈ r.stage name ↔ key.stage = name ∧ r.get? key = some v := by
  unfold stage get?
  cases kept : r.stages.get? name with
  | none =>
    constructor
    · intro mem
      cases mem
    · rintro ⟨here, found⟩
      simp [here, kept] at found
  | some instances =>
    rw [mem_listing]
    apply and_congr_right
    intro here
    simp [here, kept]

theorem stage_ascending (r : Roster ρ) (name : String) :
    (r.stage name).Pairwise fun e e' => compare e.1 e'.1 = .lt := by
  unfold stage
  cases r.stages.get? name with
  | none => exact .nil
  | some instances => exact listing_ascending name instances

theorem all_eq (r : Roster ρ) : r.all = r.drain.2 := by
  unfold all drain SortedMap.keys
  rw [List.flatMap_map]
  apply List.flatMap_congr
  intro e entry
  have kept : r.stages.get? e.1 = some e.2 := SortedMap.mem_entries.mp entry
  simp [stage, kept]

theorem mem_all {r : Roster ρ} {key : StageKey} {v : ρ} :
    (key, v) ∈ r.all ↔ r.get? key = some v := by
  simp only [all, List.mem_flatMap, mem_stage]
  constructor
  · rintro ⟨name, _, _, found⟩
    exact found
  · intro found
    obtain ⟨instances, kept, _⟩ := get?_eq_some_iff.mp found
    exact ⟨key.stage, SortedMap.mem_keys.mpr ⟨instances, kept⟩, rfl, found⟩

theorem compare_of_stage_lt {k k' : StageKey} (lt : compare k.stage k'.stage = .lt) :
    compare k k' = .lt := by
  change (compare k.stage k'.stage).then (compare k.instanceId k'.instanceId) = .lt
  rw [lt]
  rfl

theorem all_ascending (r : Roster ρ) :
    r.all.Pairwise fun e e' => compare e.1 e'.1 = .lt := by
  apply List.pairwise_flatMap.mpr
  constructor
  · intro name _
    exact r.stage_ascending name
  · apply r.stages.keys_ascending.imp
    rintro name name' lt ⟨key, v⟩ mem ⟨key', v'⟩ mem'
    apply compare_of_stage_lt
    rw [(mem_stage.mp mem).1, (mem_stage.mp mem').1]
    exact lt

theorem instanceIds_eq (r : Roster ρ) (name : String) :
    r.instanceIds name = (r.stage name).map (·.1.instanceId) := by
  unfold instanceIds stage
  cases r.stages.get? name with
  | none => rfl
  | some instances => simp [listing, SortedMap.keys]

theorem liveCount_eq (r : Roster ρ) (name : String) : r.liveCount name = (r.stage name).length := by
  unfold liveCount stage
  cases r.stages.get? name with
  | none => rfl
  | some instances => simp [listing, SortedMap.size]

theorem instanceIds_ascending (r : Roster ρ) (name : String) :
    (r.instanceIds name).Pairwise (· < ·) := by
  unfold instanceIds
  cases r.stages.get? name with
  | none => exact .nil
  | some instances => exact instances.keys_ascending.imp Nat.compare_eq_lt.mp

/-- A count fits where the numbers do, unless an instance of every number is there. -/
theorem liveCount_lt {r : Roster ρ} {name : String} {bound id : Nat}
    (within : ∀ i ∈ r.instanceIds name, i < bound) (free : id < bound)
    (missing : id ∉ r.instanceIds name) : r.liveCount name < bound := by
  have distinct : (id :: r.instanceIds name).Nodup :=
    List.nodup_cons.mpr ⟨missing, (r.instanceIds_ascending name).imp Nat.ne_of_lt⟩
  have inside : id :: r.instanceIds name ⊆ List.range bound := by
    intro i mem
    rcases List.mem_cons.mp mem with rfl | held
    · exact List.mem_range.mpr free
    · exact List.mem_range.mpr (within i held)
  have few := (List.subperm_of_subset distinct inside).length_le
  rw [List.length_cons, List.length_range, instanceIds_eq, List.length_map, ← liveCount_eq] at few
  exact few

theorem toNat_liveCount {r : Roster ρ} {name : String} {id : Nat}
    (within : ∀ i ∈ r.instanceIds name, i < UInt32.size) (free : id < UInt32.size)
    (missing : id ∉ r.instanceIds name) :
    (UInt32.ofNat (r.liveCount name)).toNat = r.liveCount name :=
  UInt32.toNat_ofNat_of_lt' (liveCount_lt within free missing)

theorem foldl_size (l : List (String × SortedMap Nat ρ)) (n : Nat) :
    l.foldl (fun n e => n + e.2.size) n = n + (l.flatMap fun e => listing e.1 e.2).length := by
  induction l generalizing n with
  | nil => rfl
  | cons e rest ih =>
    rw [List.foldl_cons, ih, List.flatMap_cons, List.length_append]
    have first : (listing e.1 e.2).length = e.2.size := List.length_map _
    omega

theorem size_eq (r : Roster ρ) : r.size = r.all.length := by
  rw [all_eq, size, foldl_size]
  exact Nat.zero_add _

theorem isEmpty_iff {r : Roster ρ} (occupied : Occupied r) :
    r.isEmpty ↔ ∀ key, r.get? key = none := by
  rw [isEmpty, SortedMap.isEmpty_iff]
  constructor
  · intro gone key
    simp [get?, gone]
  · intro vacant name
    -- A stage that is kept has an instance, which would be found.
    cases kept : r.stages.get? name with
    | none => rfl
    | some instances =>
      obtain ⟨id, v, found⟩ := exists_of_occupied occupied kept
      rw [vacant] at found
      cases found

theorem get?_counts {r : Roster ρ} (occupied : Occupied r) (name : String) :
    r.counts.get? name = if 0 < r.liveCount name then some (r.liveCount name) else none := by
  have names : (r.stages.entries.map fun e => (e.1, e.2.size)).map (·.1) = r.stages.keys := by
    rw [List.map_map]
    rfl
  unfold counts liveCount
  cases kept : r.stages.get? name with
  | none =>
    have absent : name ∉ (r.stages.entries.map fun e => (e.1, e.2.size)).map (·.1) := by
      rw [names, SortedMap.mem_keys, kept]
      simp
    exact SortedMap.get?_insertAll_of_not_mem _ absent
  | some instances =>
    have filled : 0 < instances.size := by
      have some_entry := occupied name instances kept
      simpa [SortedMap.isEmpty, SortedMap.size, List.length_pos_iff] using some_entry
    have distinct : ((r.stages.entries.map fun e => (e.1, e.2.size)).map (·.1)).Nodup :=
      names ▸ SortedMap.ascending_nodup r.stages.keys_ascending
    have entry : (name, instances.size) ∈ r.stages.entries.map fun e => (e.1, e.2.size) :=
      List.mem_map.mpr ⟨(name, instances), SortedMap.mem_entries.mpr kept, rfl⟩
    rw [SortedMap.ofList, SortedMap.get?_insertAll_of_mem _ distinct entry]
    simp [filled]

theorem isContiguous_iff {r : Roster ρ} :
    r.isContiguous ↔ ∀ name, r.instanceIds name = List.range (r.liveCount name) := by
  simp only [isContiguous, List.all_eq_true, decide_eq_true_eq]
  constructor
  · intro numbered name
    unfold instanceIds liveCount
    cases kept : r.stages.get? name with
    | none => rfl
    | some instances => exact numbered (name, instances) (SortedMap.mem_entries.mpr kept)
  · intro numbered e entry
    have kept : r.stages.get? e.1 = some e.2 := SortedMap.mem_entries.mp entry
    simpa [instanceIds, liveCount, kept] using numbered e.1

/-! ### The finite map -/

abbrev Table (ρ : Type) := Finmap fun _ : StageKey => ρ

/-- Keys ascend by the bytes of their stages and, within a stage, by number. -/
def Precedes (k k' : StageKey) : Prop :=
  List.Lex (· < ·) (Text.bytes k.stage) (Text.bytes k'.stage) ∨
    k.stage = k'.stage ∧ k.instanceId < k'.instanceId

theorem precedes_iff {k k' : StageKey} : Precedes k k' ↔ compare k k' = .lt := by
  have first : compare k k'
      = (compare k.stage k'.stage).then (compare k.instanceId k'.instanceId) := rfl
  rw [first, Ordering.then_eq_lt, Precedes, Text.compare_eq_lt_iff_bytes, Nat.compare_eq_lt,
    Std.LawfulEqOrd.compare_eq_iff_eq]

/-- A list of the entries of the table for the keys in question, each once, in ascending order. -/
structure Lists (l : List (StageKey × ρ)) (M : Table ρ) (asked : StageKey → Prop) : Prop where
  ascending : l.Pairwise fun e e' => Precedes e.1 e'.1
  mem : ∀ key v, (key, v) ∈ l ↔ asked key ∧ M.lookup key = some v

theorem Lists.length {l : List (StageKey × ρ)} {M : Table ρ} {asked : StageKey → Prop}
    [DecidablePred asked] (lists : Lists l M asked) : l.length = (M.keys.filter asked).card := by
  have distinct : (l.map (·.1)).Nodup := by
    apply SortedMap.ascending_nodup
    apply List.pairwise_map.mpr
    exact lists.ascending.imp precedes_iff.mp
  have keys : (l.map (·.1)).toFinset = M.keys.filter asked := by
    ext key
    simp [lists.mem, Finmap.mem_keys, Finmap.mem_iff, and_comm]
  rw [← keys, List.toFinset_card_of_nodup distinct, List.length_map]

/-- The roster keeps no bare stage and finds what the table has. -/
structure Depicts (r : Roster ρ) (M : Table ρ) : Prop where
  occupied : Occupied r
  lookup : ∀ key, r.get? key = M.lookup key

inductive Call (ρ : Type) where
  | insert (key : StageKey) (v : ρ)
  | remove (key : StageKey)
  | drain

def Call.roster (r : Roster ρ) : Call ρ → Roster ρ
  | insert key v => (r.insert key v).1
  | remove key => (r.remove key).1
  | drain => r.drain.1

def Call.table (M : Table ρ) : Call ρ → Table ρ
  | insert key v => M.insert key v
  | remove key => M.erase key
  | drain => ∅

theorem Depicts.empty : Depicts (empty : Roster ρ) ∅ := ⟨.empty, fun _ => rfl⟩

theorem Depicts.call {r : Roster ρ} {M : Table ρ} (depicts : Depicts r M) (call : Call ρ) :
    Depicts (call.roster r) (call.table M) := by
  cases call with
  | insert key v =>
    refine ⟨depicts.occupied.insert key v, fun k => ?_⟩
    simp only [Call.roster, Call.table, get?_insert]
    split
    next here => rw [here, Finmap.lookup_insert]
    next other => rw [Finmap.lookup_insert_of_ne _ other, depicts.lookup]
  | remove key =>
    refine ⟨depicts.occupied.remove key, fun k => ?_⟩
    simp only [Call.roster, Call.table, get?_remove]
    split
    next here => rw [here, Finmap.lookup_erase]
    next other => rw [Finmap.lookup_erase_ne other, depicts.lookup]
  | drain => exact .empty

theorem Depicts.calls {r : Roster ρ} {M : Table ρ} (depicts : Depicts r M)
    (calls : List (Call ρ)) : Depicts (calls.foldl Call.roster r) (calls.foldl Call.table M) := by
  induction calls generalizing r M with
  | nil => exact depicts
  | cons call rest ih => exact ih (depicts.call call)

section
variable {r : Roster ρ} {M : Table ρ}

theorem Depicts.all (depicts : Depicts r M) : Lists r.all M fun _ => True where
  ascending := r.all_ascending.imp precedes_iff.mpr
  mem key v := by rw [mem_all, depicts.lookup, true_and]

theorem Depicts.stage (depicts : Depicts r M) (name : String) :
    Lists (r.stage name) M (·.stage = name) where
  ascending := (r.stage_ascending name).imp precedes_iff.mpr
  mem key v := by rw [mem_stage, depicts.lookup]

theorem Depicts.mem_instanceIds (depicts : Depicts r M) (name : String) (id : Nat) :
    id ∈ r.instanceIds name ↔ (⟨name, id⟩ : StageKey) ∈ M := by
  rw [Finmap.mem_iff, instanceIds_eq]
  constructor
  · intro mem
    obtain ⟨⟨⟨s, i⟩, v⟩, listed, rfl⟩ := List.mem_map.mp mem
    obtain ⟨rfl, found⟩ := ((depicts.stage name).mem _ _).mp listed
    exact ⟨v, found⟩
  · intro ⟨v, found⟩
    exact List.mem_map.mpr ⟨(⟨name, id⟩, v), ((depicts.stage name).mem _ _).mpr ⟨rfl, found⟩, rfl⟩

theorem Depicts.isContiguous (depicts : Depicts r M) :
    r.isContiguous ↔ ∀ name id, (⟨name, id⟩ : StageKey) ∈ M ↔ id < r.liveCount name := by
  rw [isContiguous_iff]
  apply forall_congr'
  intro name
  constructor
  · intro numbered id
    rw [← depicts.mem_instanceIds, numbered, List.mem_range]
  · intro numbered
    apply List.Pairwise.eq_of_mem_iff (r.instanceIds_ascending name) List.pairwise_lt_range
    intro id
    rw [depicts.mem_instanceIds, numbered, List.mem_range]

theorem Depicts.isEmpty (depicts : Depicts r M) : r.isEmpty ↔ M = ∅ := by
  rw [isEmpty_iff depicts.occupied]
  constructor
  · intro none_found
    apply Finmap.ext_lookup
    intro key
    rw [← depicts.lookup, none_found, Finmap.lookup_empty]
  · rintro rfl key
    rw [depicts.lookup, Finmap.lookup_empty]

end

structure Refines (r : Roster ρ) (M : Table ρ) : Prop where
  occupied : Occupied r
  get : ∀ key, r.get? key = M.lookup key
  insert : ∀ key v, (r.insert key v).2 = M.lookup key
  remove : ∀ key, (r.remove key).2 = M.lookup key
  drain : Lists r.drain.2 M (fun _ => True) ∧ r.drain.1 = empty
  all : Lists r.all M fun _ => True
  stage : ∀ name, Lists (r.stage name) M (·.stage = name)
  liveCount : ∀ name, r.liveCount name = (M.keys.filter (·.stage = name)).card
  instanceIds : ∀ name, (r.instanceIds name).Pairwise (· < ·) ∧
    ∀ id, id ∈ r.instanceIds name ↔ (⟨name, id⟩ : StageKey) ∈ M
  counts : ∀ name n, r.counts.get? name = some n ↔ 0 < r.liveCount name ∧ n = r.liveCount name
  size : r.size = M.keys.card
  isEmpty : r.isEmpty ↔ M = ∅
  isContiguous : r.isContiguous ↔
    ∀ name id, (⟨name, id⟩ : StageKey) ∈ M ↔ id < r.liveCount name

theorem Depicts.refines {r : Roster ρ} {M : Table ρ} (depicts : Depicts r M) : Refines r M where
  occupied := depicts.occupied
  get := depicts.lookup
  insert key v := by rw [insert_answer, depicts.lookup]
  remove key := by rw [remove_answer, depicts.lookup]
  drain := ⟨r.all_eq ▸ depicts.all, rfl⟩
  all := depicts.all
  stage := depicts.stage
  liveCount name := by rw [liveCount_eq, (depicts.stage name).length]
  instanceIds name := ⟨r.instanceIds_ascending name, depicts.mem_instanceIds name⟩
  counts name n := by
    rw [get?_counts depicts.occupied]
    split <;> simp_all [eq_comm]
  size := by rw [size_eq, depicts.all.length, Finset.filter_true]
  isEmpty := depicts.isEmpty
  isContiguous := depicts.isContiguous

/-- Whatever was inserted, removed and drained before, a roster answers as the table does. -/
theorem refines_table (calls : List (Call ρ)) :
    Refines (calls.foldl Call.roster empty) (calls.foldl Call.table ∅) :=
  (Depicts.empty.calls calls).refines

/-- Without its middle instance a stage is numbered with a gap. -/
example : (([.insert ⟨"parser", 0⟩ 10, .insert ⟨"parser", 1⟩ 11, .insert ⟨"parser", 2⟩ 12,
    .remove ⟨"parser", 1⟩] : List (Call Nat)).foldl Call.roster empty).isContiguous = false := by
  decide

/-! ### Registries -/

def flat (r : Roster ρ) : Registry ρ := ⟨r.all, r.all_ascending⟩

@[simp] theorem get?_flat (r : Roster ρ) (key : StageKey) : r.flat.get? key = r.get? key := by
  apply Option.ext
  intro v
  rw [← SortedMap.mem_entries]
  exact mem_all

theorem stage_flat (r : Roster ρ) (name : String) : Registry.stage r.flat name = r.stage name := by
  apply SortedMap.entries_unique (r.flat.ascending.filter _) (r.stage_ascending name)
  intro key v
  rw [mem_stage, ← get?_flat]
  exact Registry.mem_stage

theorem isContiguous_flat (r : Roster ρ) : Registry.isContiguous r.flat = r.isContiguous := by
  apply Bool.eq_iff_iff.mpr
  rw [isContiguous_iff, Registry.isContiguous_iff]
  simp only [Registry.instanceIds, Registry.liveCount, stage_flat, instanceIds_eq, liveCount_eq]

structure Same (r : Roster ρ) (m : Registry ρ) : Prop where
  get : ∀ key, m.get? key = r.get? key
  all : m.all = r.all
  stage : ∀ name, Registry.stage m name = r.stage name
  instanceIds : ∀ name, m.instanceIds name = r.instanceIds name
  liveCount : ∀ name, m.liveCount name = r.liveCount name
  counts : m.counts = r.counts
  size : m.size = r.size
  isEmpty : m.isEmpty = r.isEmpty
  isContiguous : m.isContiguous = r.isContiguous

theorem same_flat {r : Roster ρ} (occupied : Occupied r) : Same r r.flat where
  get := r.get?_flat
  all := rfl
  stage := r.stage_flat
  instanceIds name := by rw [Registry.instanceIds, stage_flat, instanceIds_eq]
  liveCount name := by rw [Registry.liveCount, stage_flat, liveCount_eq]
  counts := by
    apply SortedMap.ext_get?
    intro name
    rw [Registry.get?_counts, get?_counts occupied, Registry.liveCount, stage_flat, liveCount_eq]
  size := r.size_eq.symm
  isEmpty := by
    apply Bool.eq_iff_iff.mpr
    rw [isEmpty_iff occupied, SortedMap.isEmpty_iff]
    simp only [get?_flat]
  isContiguous := r.isContiguous_flat

def Call.registry (m : Registry ρ) : Call ρ → Registry ρ
  | insert key v => m.insert key v
  | remove key => m.erase key
  | drain => .empty

theorem flat_call (r : Roster ρ) (call : Call ρ) : (call.roster r).flat = call.registry r.flat := by
  apply SortedMap.ext_get?
  intro k
  cases call with
  | insert key v => simp [Call.roster, Call.registry, get?_insert, SortedMap.get?_insert]
  | remove key =>
    simp [Call.roster, Call.registry, get?_remove, SortedMap.get?_erase, eq_comm (a := key)]
  | drain => rw [get?_flat]; rfl

theorem flat_calls (r : Roster ρ) (calls : List (Call ρ)) :
    (calls.foldl Call.roster r).flat = calls.foldl Call.registry r.flat := by
  induction calls generalizing r with
  | nil => rfl
  | cons call rest ih => rw [List.foldl_cons, ih, flat_call, List.foldl_cons]

theorem same_registry (calls : List (Call ρ)) :
    Same (calls.foldl Call.roster empty) (calls.foldl Call.registry .empty) := by
  have same := same_flat (Depicts.empty.calls calls).occupied
  rw [flat_calls] at same
  exact same

end FlowRuntime.Roster
