/-!
Finite maps kept in strictly ascending key order, so that listing one is
deterministic and equal maps are equal values. Text keys ascend by code point,
which is also the order of their UTF-8 bytes. We verify that look-up after
`insert` and `erase` is what a map promises; nothing here is specific to flows.
-/
namespace FlowRuntime

structure SortedMap (κ ν : Type) [Ord κ] where
  entries : List (κ × ν)
  ascending : entries.Pairwise (fun a b => compare a.1 b.1 = .lt)

namespace SortedMap
variable {κ ν μ : Type} [Ord κ]

instance [DecidableEq κ] [DecidableEq ν] : DecidableEq (SortedMap κ ν)
  | ⟨a, _⟩, ⟨b, _⟩ =>
    if h : a = b then isTrue (by cases h; rfl) else isFalse (fun e => h (by cases e; rfl))

theorem ext {a b : SortedMap κ ν} (h : a.entries = b.entries) : a = b := by
  cases a; cases b; cases h; rfl

def empty : SortedMap κ ν := ⟨[], .nil⟩

instance : EmptyCollection (SortedMap κ ν) := ⟨empty⟩
instance : Inhabited (SortedMap κ ν) := ⟨empty⟩

def lookup (k : κ) : List (κ × ν) → Option ν
  | [] => none
  | (k', v) :: rest => if compare k k' = .eq then some v else lookup k rest

def get? (m : SortedMap κ ν) (k : κ) : Option ν := lookup k m.entries

def contains (m : SortedMap κ ν) (k : κ) : Bool := (m.get? k).isSome

def keys (m : SortedMap κ ν) : List κ := m.entries.map (·.1)

def size (m : SortedMap κ ν) : Nat := m.entries.length

def isEmpty (m : SortedMap κ ν) : Bool := m.entries.isEmpty

def place (k : κ) (v : ν) : List (κ × ν) → List (κ × ν)
  | [] => [(k, v)]
  | (k', v') :: rest =>
    match compare k k' with
    | .lt => (k, v) :: (k', v') :: rest
    | .eq => (k, v) :: rest
    | .gt => (k', v') :: place k v rest

theorem mem_place {k : κ} {v : ν} {l : List (κ × ν)} {e : κ × ν} (h : e ∈ place k v l) :
    e = (k, v) ∨ e ∈ l := by
  induction l with
  | nil => simp [place] at h; exact .inl h
  | cons head rest ih =>
    unfold place at h
    split at h
    · rcases List.mem_cons.mp h with h | h
      · exact .inl h
      · exact .inr h
    · rcases List.mem_cons.mp h with h | h
      · exact .inl h
      · exact .inr (List.mem_cons_of_mem _ h)
    · rcases List.mem_cons.mp h with h | h
      · exact .inr (h ▸ List.mem_cons_self)
      · exact (ih h).imp_right (List.mem_cons_of_mem _)

theorem place_ascending [Std.TransOrd κ] (k : κ) (v : ν) {l : List (κ × ν)}
    (h : l.Pairwise (fun a b => compare a.1 b.1 = .lt)) :
    (place k v l).Pairwise (fun a b => compare a.1 b.1 = .lt) := by
  induction l with
  | nil => exact List.pairwise_singleton _ _
  | cons head rest ih =>
    have ⟨first, tail⟩ := List.pairwise_cons.mp h
    unfold place
    split
    next lt =>
      refine List.pairwise_cons.mpr ⟨fun e he => ?_, h⟩
      rcases List.mem_cons.mp he with he | he
      · exact he ▸ lt
      · exact Std.TransCmp.lt_trans lt (first e he)
    next eq =>
      exact List.pairwise_cons.mpr
        ⟨fun e he => Std.TransCmp.lt_of_eq_of_lt eq (first e he), tail⟩
    next gt =>
      refine List.pairwise_cons.mpr ⟨fun e he => ?_, ih tail⟩
      rcases mem_place he with he | he
      · exact he ▸ Std.OrientedCmp.lt_of_gt gt
      · exact first e he

def insert [Std.TransOrd κ] (m : SortedMap κ ν) (k : κ) (v : ν) : SortedMap κ ν :=
  ⟨place k v m.entries, place_ascending k v m.ascending⟩

def filter (m : SortedMap κ ν) (p : κ → ν → Bool) : SortedMap κ ν :=
  ⟨m.entries.filter (fun e => p e.1 e.2), m.ascending.filter _⟩

def erase (m : SortedMap κ ν) (k : κ) : SortedMap κ ν :=
  m.filter (fun k' _ => !(compare k k' == .eq))

/-- Later entries win over earlier ones and over those of the map. -/
def insertAll [Std.TransOrd κ] (m : SortedMap κ ν) (entries : List (κ × ν)) : SortedMap κ ν :=
  entries.foldl (fun m e => m.insert e.1 e.2) m

def ofList [Std.TransOrd κ] (entries : List (κ × ν)) : SortedMap κ ν :=
  insertAll empty entries

@[simp] theorem get?_empty (k : κ) : (empty : SortedMap κ ν).get? k = none := rfl

theorem lookup_place_self [Std.ReflOrd κ] (k : κ) (v : ν) (l : List (κ × ν)) :
    lookup k (place k v l) = some v := by
  induction l with
  | nil => simp [place, lookup]
  | cons head rest ih =>
    unfold place
    split
    · simp [lookup]
    · simp [lookup]
    next gt => simp [lookup, gt, ih]

theorem lookup_place_ne [Std.LawfulEqOrd κ] {k k' : κ} (ne : k' ≠ k) (v : ν)
    (l : List (κ × ν)) : lookup k' (place k v l) = lookup k' l := by
  induction l with
  | nil => simp [place, lookup, ne]
  | cons head rest ih =>
    obtain ⟨h, w⟩ := head
    unfold place
    split
    · simp [lookup, ne]
    next eq =>
      have same : k = h := Std.LawfulEqOrd.eq_of_compare eq
      simp [lookup, ne, same ▸ ne]
    · simp [lookup, ih]

@[simp] theorem get?_insert_self [Std.TransOrd κ] (m : SortedMap κ ν) (k : κ) (v : ν) :
    (m.insert k v).get? k = some v := lookup_place_self k v m.entries

theorem get?_insert_ne [Std.TransOrd κ] [Std.LawfulEqOrd κ] (m : SortedMap κ ν) {k k' : κ}
    (ne : k' ≠ k) (v : ν) : (m.insert k v).get? k' = m.get? k' :=
  lookup_place_ne ne v m.entries

theorem get?_insert [DecidableEq κ] [Std.TransOrd κ] [Std.LawfulEqOrd κ] (m : SortedMap κ ν)
    (k k' : κ) (v : ν) : (m.insert k v).get? k' = if k' = k then some v else m.get? k' := by
  split
  next eq => rw [eq, get?_insert_self]
  next ne => exact m.get?_insert_ne ne v

theorem lookup_filter_ne [Std.LawfulEqOrd κ] (k k' : κ) (l : List (κ × ν)) :
    lookup k' (l.filter (fun e => !(compare k e.1 == .eq)))
      = if compare k k' = .eq then none else lookup k' l := by
  induction l with
  | nil => simp [lookup]
  | cons head rest ih =>
    obtain ⟨h, w⟩ := head
    by_cases drop : compare k h = .eq
    · have same : k = h := Std.LawfulEqOrd.eq_of_compare drop
      subst same
      by_cases here : compare k k' = .eq
      · simp [ih, here]
      · have away : compare k' k ≠ .eq := fun e =>
          here (by rw [Std.LawfulEqOrd.eq_of_compare e]; exact Std.ReflOrd.compare_self)
        simp [ih, here, lookup, away]
    · by_cases here : compare k k' = .eq
      · have same : k = k' := Std.LawfulEqOrd.eq_of_compare here
        subst same
        simpa [List.filter_cons, drop, lookup] using ih
      · simp [drop, lookup, ih, here]

theorem get?_erase [Std.LawfulEqOrd κ] (m : SortedMap κ ν) (k k' : κ) :
    (m.erase k).get? k' = if compare k k' = .eq then none else m.get? k' :=
  lookup_filter_ne k k' m.entries

end SortedMap
end FlowRuntime
