import FlowRuntime.SortedMap
import Mathlib.Data.List.Sort

/-!
Sorted maps by their entries. A key has an entry exactly if looking it up finds
its value. As entries ascend, maps with equal look-ups are equal, and a listing in
ascending order is determined by what is in it.
-/
namespace FlowRuntime.SortedMap
variable {κ ν : Type} [Ord κ]

theorem mem_of_lookup [Std.LawfulEqOrd κ] {k : κ} {v : ν} {l : List (κ × ν)}
    (found : lookup k l = some v) : (k, v) ∈ l := by
  induction l with
  | nil => simp [lookup] at found
  | cons head rest ih =>
    obtain ⟨h, w⟩ := head
    unfold lookup at found
    split at found
    · rename_i eq
      have same : k = h := Std.LawfulEqOrd.eq_of_compare eq
      rw [same, Option.some.inj found]
      exact List.mem_cons_self
    · exact List.mem_cons_of_mem _ (ih found)

theorem ne_of_compare_lt [Std.ReflOrd κ] {a b : κ} (lt : compare a b = .lt) : a ≠ b := by
  intro same
  rw [same, Std.ReflOrd.compare_self] at lt
  cases lt

theorem keys_ascending (m : SortedMap κ ν) :
    m.keys.Pairwise (fun a b => compare a b = .lt) :=
  List.pairwise_map.mpr m.ascending

theorem lookup_of_mem [Std.LawfulEqOrd κ] {k : κ} {v : ν} {l : List (κ × ν)}
    (ascending : l.Pairwise (fun a b => compare a.1 b.1 = .lt)) (mem : (k, v) ∈ l) :
    lookup k l = some v := by
  induction l with
  | nil => simp at mem
  | cons head rest ih =>
    obtain ⟨above, tail⟩ := List.pairwise_cons.mp ascending
    rcases List.mem_cons.mp mem with here | later
    · simp [← here, lookup]
    · have apart : k ≠ head.1 := (ne_of_compare_lt (above (k, v) later)).symm
      simp [lookup, apart, ih tail later]

theorem ascending_nodup [Std.ReflOrd κ] {l : List κ}
    (ascending : l.Pairwise (fun a b => compare a b = .lt)) : l.Nodup :=
  ascending.imp ne_of_compare_lt

theorem mem_entries [Std.LawfulEqOrd κ] {m : SortedMap κ ν} {k : κ} {v : ν} :
    (k, v) ∈ m.entries ↔ m.get? k = some v :=
  ⟨lookup_of_mem m.ascending, mem_of_lookup⟩

theorem mem_keys [Std.LawfulEqOrd κ] {m : SortedMap κ ν} {k : κ} :
    k ∈ m.keys ↔ ∃ v, m.get? k = some v := by
  constructor
  · intro mem
    obtain ⟨⟨k', v⟩, entry, same⟩ := List.mem_map.mp mem
    subst same
    exact ⟨v, mem_entries.mp entry⟩
  · intro ⟨v, found⟩
    exact List.mem_map.mpr ⟨(k, v), mem_entries.mpr found, rfl⟩

theorem isEmpty_iff [Std.LawfulEqOrd κ] {m : SortedMap κ ν} :
    m.isEmpty ↔ ∀ k, m.get? k = none := by
  constructor
  · intro bare k
    cases held : m.entries with
    | nil => simp [get?, held, lookup]
    | cons first others => simp [isEmpty, held] at bare
  · intro vacant
    cases held : m.entries with
    | nil => simp [isEmpty, held]
    | cons first others =>
      have found : m.get? first.1 = some first.2 := mem_entries.mp (by simp [held])
      rw [vacant] at found
      cases found

theorem get?_eraseAll [Std.LawfulEqOrd κ] [DecidableEq κ] (m : SortedMap κ ν) (keys : List κ)
    (k : κ) : (keys.foldl erase m).get? k = if k ∈ keys then none else m.get? k := by
  induction keys generalizing m with
  | nil => simp
  | cons head rest ih =>
    rw [List.foldl_cons, ih, get?_erase]
    by_cases here : k = head
    · simp [here]
    · have apart : compare head k ≠ .eq := by
        intro eq
        exact here (Std.LawfulEqOrd.eq_of_compare eq).symm
      simp [here, apart]

theorem mem_keys_eraseAll [Std.LawfulEqOrd κ] [DecidableEq κ] (m : SortedMap κ ν) (keys : List κ)
    (k : κ) : k ∈ (keys.foldl erase m).keys ↔ k ∉ keys ∧ k ∈ m.keys := by
  rw [mem_keys, mem_keys, get?_eraseAll]
  by_cases gone : k ∈ keys <;> simp [gone]

section
variable [Std.TransOrd κ] [Std.LawfulEqOrd κ]

theorem ascending_unique {l l' : List κ} (ascending : l.Pairwise (fun a b => compare a b = .lt))
    (ascending' : l'.Pairwise (fun a b => compare a b = .lt)) (same : ∀ k, k ∈ l ↔ k ∈ l') :
    l = l' := by
  have perm : l.Perm l' :=
    (List.perm_ext_iff_of_nodup (ascending_nodup ascending) (ascending_nodup ascending')).mpr same
  apply perm.eq_of_pairwise _ ascending ascending'
  intro a b _ _ lt gt
  exact absurd gt (Std.OrientedCmp.not_lt_of_lt lt)

theorem ext_get? {m m' : SortedMap κ ν} (same : ∀ k, m.get? k = m'.get? k) : m = m' := by
  have nodup (m : SortedMap κ ν) : m.entries.Nodup := by
    apply m.ascending.imp
    intro a b lt eq
    exact ne_of_compare_lt lt (congrArg Prod.fst eq)
  have perm : m.entries.Perm m'.entries := by
    apply (List.perm_ext_iff_of_nodup (nodup m) (nodup m')).mpr
    intro ⟨k, v⟩
    rw [mem_entries, mem_entries, same]
  apply ext
  apply perm.eq_of_pairwise _ m.ascending m'.ascending
  intro a b _ _ lt gt
  exact absurd gt (Std.OrientedCmp.not_lt_of_lt lt)

theorem entries_unique {l l' : List (κ × ν)}
    (ascending : l.Pairwise fun a b => compare a.1 b.1 = .lt)
    (ascending' : l'.Pairwise fun a b => compare a.1 b.1 = .lt)
    (same : ∀ k v, (k, v) ∈ l ↔ (k, v) ∈ l') : l = l' := by
  have equal : (⟨l, ascending⟩ : SortedMap κ ν) = ⟨l', ascending'⟩ := by
    apply ext_get?
    intro k
    apply Option.ext
    intro v
    rw [← mem_entries, ← mem_entries]
    exact same k v
  exact congrArg entries equal

theorem mem_keys_insertAll [DecidableEq κ] (m : SortedMap κ ν) (l : List (κ × ν)) (k : κ) :
    k ∈ (m.insertAll l).keys ↔ k ∈ l.map (·.1) ∨ k ∈ m.keys := by
  induction l generalizing m with
  | nil => simp [insertAll]
  | cons head rest ih =>
    have step : k ∈ (m.insert head.1 head.2).keys ↔ k = head.1 ∨ k ∈ m.keys := by
      rw [mem_keys, mem_keys]
      by_cases here : k = head.1 <;> simp [get?_insert, here]
    apply (ih (m.insert head.1 head.2)).trans
    rw [step, List.map_cons, List.mem_cons]
    tauto

theorem get?_foldl_insert [DecidableEq κ] {α : Type} (key : α → κ) (value : κ → ν) (l : List α)
    (m : SortedMap κ ν) (k : κ) :
    (l.foldl (fun m a => m.insert (key a) (value (key a))) m).get? k =
      if k ∈ l.map key then some (value k) else m.get? k := by
  induction l generalizing m with
  | nil => simp
  | cons a rest ih =>
    rw [List.foldl_cons, ih, get?_insert]
    by_cases here : k = key a
    · simp [here]
    · simp [here]

theorem get?_insertAll_of_not_mem (m : SortedMap κ ν) {l : List (κ × ν)} {k : κ}
    (absent : k ∉ l.map (·.1)) : (m.insertAll l).get? k = m.get? k := by
  induction l generalizing m with
  | nil => rfl
  | cons head rest ih =>
    simp only [List.map_cons, List.mem_cons, not_or] at absent
    have later : ((m.insert head.1 head.2).insertAll rest).get? k
        = (m.insert head.1 head.2).get? k := ih _ absent.2
    exact later.trans (m.get?_insert_ne absent.1 head.2)

theorem get?_insertAll_of_mem (m : SortedMap κ ν) {l : List (κ × ν)} {k : κ} {v : ν}
    (nodup : (l.map (·.1)).Nodup) (mem : (k, v) ∈ l) : (m.insertAll l).get? k = some v := by
  induction l generalizing m with
  | nil => simp at mem
  | cons head rest ih =>
    simp only [List.map_cons, List.nodup_cons] at nodup
    rcases List.mem_cons.mp mem with here | later
    · subst here
      have kept := (m.insert k v).get?_insertAll_of_not_mem nodup.1
      exact kept.trans (m.get?_insert_self k v)
    · exact ih (m.insert head.1 head.2) nodup.2 later

theorem ofList_entries (m : SortedMap κ ν) : ofList m.entries = m := by
  apply ext_get?
  intro k
  have distinct : (m.entries.map (·.1)).Nodup := ascending_nodup m.keys_ascending
  cases found : m.get? k with
  | some v => exact get?_insertAll_of_mem _ distinct (mem_of_lookup found)
  | none =>
    apply get?_insertAll_of_not_mem
    intro given
    obtain ⟨v, here⟩ := mem_keys.mp given
    rw [found] at here
    cases here

theorem get?_insertAll_eq_some_iff [DecidableEq κ] (m : SortedMap κ ν) {l : List (κ × ν)} {k : κ}
    {v : ν} (nodup : (l.map (·.1)).Nodup) (vacant : ∀ k ∈ l.map (·.1), m.get? k = none) :
    (m.insertAll l).get? k = some v ↔ m.get? k = some v ∨ (k, v) ∈ l := by
  by_cases given : k ∈ l.map (·.1)
  · rw [vacant k given, or_iff_right (by simp)]
    constructor
    · intro found
      obtain ⟨⟨k', w⟩, mem, rfl⟩ := List.mem_map.mp given
      rw [m.get?_insertAll_of_mem nodup mem] at found
      exact Option.some.inj found ▸ mem
    · exact m.get?_insertAll_of_mem nodup
  · have absent : (k, v) ∉ l := by
      intro mem
      exact given (List.mem_map_of_mem mem)
    rw [m.get?_insertAll_of_not_mem given, or_iff_left absent]

end
end FlowRuntime.SortedMap
