import FlowRuntime.Proofs.Rehearsal.Ensemble
import FlowRuntime.Proofs.Rehearsal.Hosted
import Mathlib.Data.Finset.Card

/-!
The roles in a part. An ensemble has a role of its own, which is to wait for its entrance, and
so every number that a part and those within it go by stands for one role. Those are present
whose ensembles have been entered. As long as someone present is stirred, seeing to parts
lowers the load of what is left to be done, since nobody is stirred but by an act that ends.
-/
namespace FlowRuntime.Rehearsal

/-! ### Entrances -/

def Entrance.act : Entrance → Act
  | .ahead after => .ahead after (.aside (.sleep 0))
  | .waiting due => .waiting due (.aside (.sleep 0))
  | .begun time => .ended time .done

theorem Entrance.act_muted (entrance : Entrance) : entrance.act.muted = entrance.act := by
  cases entrance with
  | ahead after => rfl
  | waiting due => rfl
  | begun time => simp [act, Act.muted, Finding.muted]

theorem Entrance.eq_of_act {entrance entrance' : Entrance} (same : entrance'.act = entrance.act) :
    entrance' = entrance := by
  cases entrance <;> cases entrance' <;> simp_all [act]

theorem Scene.seeTo_entrance (s : Scene) (place : Nat) (entrance : Entrance) :
    s.seeTo place entrance.act =
      ((s.enter place entrance).1, (s.enter place entrance).2.act) := by
  have rested (s : Scene) : s.begin place (.aside (.sleep 0)) = (s, .ended s.now .done) := by
    simp [Scene.begin, Scene.attend, Scene.rest, waitFor]
  cases entrance with
  | ahead after =>
    simp only [Entrance.act, Scene.seeTo, Scene.enter, rested]
    split <;> rfl
  | waiting due =>
    simp only [Entrance.act, Scene.seeTo, Scene.enter, rested]
    split <;> rfl
  | begun time => rfl

/-! ### Roles -/

namespace Part

mutual

/-- The acts in a part by their places, those of ensembles among them. -/
def roles : Part → List (Nat × Act)
  | .solo place act => [(place, act)]
  | .ensemble place _ entrance members => (place, entrance.act) :: rolesOf members

def rolesOf : List Part → List (Nat × Act)
  | [] => []
  | p :: rest => p.roles ++ rolesOf rest

end

def seats (p : Part) : List Nat := p.roles.map (·.1)

def seatsOf (members : List Part) : List Nat := (rolesOf members).map (·.1)

mutual

/-- The places in a part that have been come to: those in an ensemble, once it has been entered. -/
def present : Part → List Nat
  | .solo place _ => [place]
  | .ensemble place _ (.begun _) members => place :: presentOf members
  | .ensemble place _ _ _ => [place]

def presentOf : List Part → List Nat
  | [] => []
  | p :: rest => p.present ++ presentOf rest

end

def inner : Part → List Nat
  | .ensemble _ _ (.begun _) members => presentOf members
  | _ => []

mutual

def outline : Part → Part
  | .solo place _ => .solo place (.ended 0 .done)
  | .ensemble place size _ members => .ensemble place size (.begun 0) (outlineOf members)

def outlineOf : List Part → List Part
  | [] => []
  | p :: rest => p.outline :: outlineOf rest

end

def IsFresh (p : Part) : Prop := ∀ e ∈ p.roles, ∃ after request, e.2 = .ahead after request

mutual

/-- Whether all is ahead within each ensemble that has not been entered. -/
def IsSound : Part → Prop
  | .solo _ _ => True
  | .ensemble _ _ entrance members =>
    ((∃ time, entrance = .begun time) ∨ ∀ m ∈ members, m.IsFresh) ∧ AreSound members

def AreSound : List Part → Prop
  | [] => True
  | p :: rest => p.IsSound ∧ AreSound rest

end

mutual

/-- Whether the members of each ensemble are numbered one after the other, from its own number on. -/
def IsNumbered : Part → Prop
  | .solo _ _ => True
  | .ensemble place size _ members =>
    0 < size ∧ seatsOf members = List.range' (place + 1) (size - 1) ∧ AreNumbered members

def AreNumbered : List Part → Prop
  | [] => True
  | p :: rest => p.IsNumbered ∧ AreNumbered rest

end

section
variable {p m : Part} {members more : List Part} {place : Nat}

theorem rolesOf_append (members more : List Part) :
    rolesOf (members ++ more) = rolesOf members ++ rolesOf more := by
  induction members with
  | nil => rfl
  | cons p rest ih => simp [rolesOf, ih]

theorem seatsOf_append (members more : List Part) :
    seatsOf (members ++ more) = seatsOf members ++ seatsOf more := by
  rw [seatsOf, rolesOf_append, List.map_append]
  rfl

theorem seatsOf_cons (p : Part) (rest : List Part) : seatsOf (p :: rest) = p.seats ++ seatsOf rest := by
  rw [seatsOf, rolesOf, List.map_append]
  rfl

theorem seatsOf_singleton (p : Part) : seatsOf [p] = p.seats := by
  rw [seatsOf_cons]
  exact List.append_nil _

theorem presentOf_singleton (p : Part) : presentOf [p] = p.present := by
  rw [presentOf, presentOf, List.append_nil]

theorem rolesOf_singleton (p : Part) : rolesOf [p] = p.roles := by
  rw [rolesOf, rolesOf, List.append_nil]

theorem seats_ensemble (place size : Nat) (entrance : Entrance) (members : List Part) :
    (ensemble place size entrance members).seats = place :: seatsOf members := by
  rw [seats, roles, List.map_cons]
  rfl

theorem presentOf_append (members more : List Part) :
    presentOf (members ++ more) = presentOf members ++ presentOf more := by
  induction members with
  | nil => rw [presentOf, List.nil_append, List.nil_append]
  | cons p rest ih => rw [List.cons_append, presentOf, presentOf, ih, List.append_assoc]

theorem mem_presentOf : place ∈ presentOf members ↔ ∃ m ∈ members, place ∈ m.present := by
  induction members with
  | nil => simp [presentOf]
  | cons p rest ih => simp [presentOf, ih]

theorem mem_seatsOf : place ∈ seatsOf members ↔ ∃ m ∈ members, place ∈ m.seats := by
  induction members with
  | nil => simp [seatsOf, rolesOf]
  | cons p rest ih => simp [seatsOf_cons, ih]

theorem outlineOf_append (members more : List Part) :
    outlineOf (members ++ more) = outlineOf members ++ outlineOf more := by
  induction members with
  | nil => rw [outlineOf, List.nil_append, List.nil_append]
  | cons p rest ih => rw [List.cons_append, outlineOf, outlineOf, ih, List.cons_append]

theorem areSound_append : AreSound (members ++ more) ↔ AreSound members ∧ AreSound more := by
  induction members with
  | nil => simp [AreSound]
  | cons p rest ih => simp [AreSound, ih, and_assoc]

theorem areNumbered_append :
    AreNumbered (members ++ more) ↔ AreNumbered members ∧ AreNumbered more := by
  induction members with
  | nil => simp [AreNumbered]
  | cons p rest ih => simp [AreNumbered, ih, and_assoc]

mutual

theorem present_subset (p : Part) : p.present ⊆ p.seats := by
  cases p with
  | solo place act => simp [present, seats, roles]
  | ensemble place size entrance members =>
    rw [seats_ensemble]
    cases entrance with
    | begun time =>
      rw [present]
      exact List.cons_subset_cons place (presentOf_subset members)
    | ahead | waiting => simp [present]

theorem presentOf_subset (members : List Part) : presentOf members ⊆ seatsOf members := by
  cases members with
  | nil => simp [presentOf]
  | cons p rest =>
    rw [presentOf, seatsOf_cons]
    exact List.append_subset.mpr
      ⟨List.Subset.trans (present_subset p) (List.subset_append_left _ _),
        List.Subset.trans (presentOf_subset rest) (List.subset_append_right _ _)⟩

end

theorem inner_subset (p : Part) : p.inner ⊆ p.present := by
  cases p with
  | solo place act => simp [inner]
  | ensemble place size entrance members =>
    cases entrance with
    | begun time =>
      rw [inner, present]
      exact List.subset_cons_self _ _
    | ahead | waiting => simp [inner]

/-! ### What does not depend on what has become of a part -/

mutual

theorem seats_outline (p : Part) : p.outline.seats = p.seats := by
  cases p with
  | solo place act => rw [outline]; rfl
  | ensemble place size entrance members =>
    rw [outline, seats_ensemble, seats_ensemble, seatsOf_outline]

theorem seatsOf_outline (members : List Part) : seatsOf (outlineOf members) = seatsOf members := by
  cases members with
  | nil => rw [outlineOf]
  | cons p rest => rw [outlineOf, seatsOf_cons, seatsOf_cons, seats_outline, seatsOf_outline]

end

mutual

theorem depth_outline (p : Part) : p.outline.depth = p.depth := by
  cases p with
  | solo place act => rw [outline, depth, depth]
  | ensemble place size entrance members => rw [outline, depth, depth, depthOf_outline]

theorem depthOf_outline (members : List Part) : depthOf (outlineOf members) = depthOf members := by
  cases members with
  | nil => rw [outlineOf]
  | cons p rest => rw [outlineOf, depthOf, depthOf, depth_outline, depthOf_outline]

end

mutual

theorem isNumbered_outline (p : Part) : p.outline.IsNumbered ↔ p.IsNumbered := by
  cases p with
  | solo place act => rw [outline, IsNumbered, IsNumbered]
  | ensemble place size entrance members =>
    rw [outline, IsNumbered, IsNumbered, seatsOf_outline, areNumbered_outline]

theorem areNumbered_outline (members : List Part) :
    AreNumbered (outlineOf members) ↔ AreNumbered members := by
  cases members with
  | nil => rw [outlineOf]
  | cons p rest => rw [outlineOf, AreNumbered, AreNumbered, isNumbered_outline, areNumbered_outline]

end

theorem length_outlineOf (members : List Part) : (outlineOf members).length = members.length := by
  induction members with
  | nil => rfl
  | cons p rest ih => simp [outlineOf, ih]

theorem seatsOf_congr (same : outlineOf more = outlineOf members) : seatsOf more = seatsOf members := by
  rw [← seatsOf_outline, same, seatsOf_outline]

theorem holds_iff (numbered : p.IsNumbered) : p.holds place = true ↔ place ∈ p.seats := by
  cases p with
  | solo q act => simp [holds, seats, roles]
  | ensemble q size entrance members =>
    rw [IsNumbered] at numbered
    obtain ⟨positive, consecutive, _⟩ := numbered
    rw [seats_ensemble, consecutive, holds, Bool.and_eq_true, decide_eq_true_eq, decide_eq_true_eq,
      List.mem_cons, List.mem_range'_1]
    omega

theorem holds_muted (p : Part) (place : Nat) : p.muted.holds place = p.holds place := by
  cases p with
  | solo q act => rw [muted, holds, holds]
  | ensemble q size entrance members => rw [muted, holds, holds]

theorem isNumbered_of_mem (numbered : AreNumbered members) (mem : m ∈ members) : m.IsNumbered := by
  induction members with
  | nil => cases mem
  | cons p rest ih =>
    rw [AreNumbered] at numbered
    rcases List.mem_cons.mp mem with rfl | later
    · exact numbered.1
    · exact ih numbered.2 later

theorem turns_enough {size : Nat} (positive : 0 < size)
    (consecutive : seatsOf members = List.range' (place + 1) (size - 1)) :
    2 * (seatsOf members).toFinset.card ≤ size * size := by
  have few := List.toFinset_card_le (seatsOf members)
  rw [consecutive, List.length_range'] at few
  rw [consecutive]
  rcases Nat.lt_or_ge size 2 with small | large
  · omega
  · exact (Nat.mul_le_mul_left 2 (by omega : _ ≤ size)).trans (Nat.mul_le_mul_right size large)

theorem next_eq_none (numbered : AreNumbered members) {stirred : List Nat}
    (none : (stirred.findSome? fun q => members.findIdx? (·.holds q)) = none) :
    ∀ q ∈ seatsOf members, q ∉ stirred := by
  intro q mem among
  obtain ⟨m, here, sits⟩ := mem_seatsOf.mp mem
  have unheld := List.findSome?_eq_none_iff.mp none q among
  rw [List.findIdx?_eq_none_iff] at unheld
  have held := (holds_iff (isNumbered_of_mem numbered here)).mpr sits
  rw [unheld m here] at held
  cases held

theorem next_eq_some (numbered : AreNumbered members) {stirred : List Nat} {i : Nat}
    (found : (stirred.findSome? fun q => members.findIdx? (·.holds q)) = some i) :
    ∃ q ∈ stirred, ∃ m, members[i]? = some m ∧ q ∈ m.seats := by
  obtain ⟨q, among, here⟩ := List.exists_of_findSome?_eq_some found
  obtain ⟨within, held, _⟩ := List.findIdx?_eq_some_iff_getElem.mp here
  exact ⟨q, among, members[i], List.getElem?_eq_getElem within,
    (holds_iff (isNumbered_of_mem numbered (List.getElem_mem within))).mp held⟩

/-! ### Parts that are ahead -/

theorem IsFresh.inner (fresh : p.IsFresh) : p.inner = [] := by
  cases p with
  | solo place act => rfl
  | ensemble place size entrance members =>
    obtain ⟨after, request, ahead⟩ := fresh (place, entrance.act) (by simp [roles])
    cases entrance with
    | begun time => cases ahead
    | ahead | waiting => rfl

mutual

theorem sound_of_fresh (p : Part) (fresh : p.IsFresh) : p.IsSound := by
  cases p with
  | solo place act => rw [IsSound]; trivial
  | ensemble place size entrance members =>
    have within : ∀ e ∈ rolesOf members, ∃ after request, e.2 = .ahead after request :=
      fun e mem => fresh e (by rw [roles]; exact List.mem_cons_of_mem _ mem)
    rw [IsSound]
    exact ⟨.inr (fresh_of_roles members within), sound_of_ahead members within⟩

theorem sound_of_ahead (members : List Part)
    (ahead : ∀ e ∈ rolesOf members, ∃ after request, e.2 = .ahead after request) :
    AreSound members := by
  cases members with
  | nil => rw [AreSound]; trivial
  | cons p rest =>
    rw [AreSound]
    exact ⟨sound_of_fresh p fun e mem => ahead e (by rw [rolesOf]; exact List.mem_append_left _ mem),
      sound_of_ahead rest fun e mem => ahead e (by rw [rolesOf]; exact List.mem_append_right _ mem)⟩

theorem fresh_of_roles (members : List Part)
    (ahead : ∀ e ∈ rolesOf members, ∃ after request, e.2 = .ahead after request) :
    ∀ m ∈ members, m.IsFresh := by
  cases members with
  | nil => simp
  | cons p rest =>
    intro m mem
    rcases List.mem_cons.mp mem with rfl | later
    · exact fun e mem => ahead e (by rw [rolesOf]; exact List.mem_append_left _ mem)
    · exact fresh_of_roles rest (fun e mem => ahead e (by rw [rolesOf]; exact List.mem_append_right _ mem))
        m later

end

mutual

theorem ofStep_fresh (place after : Nat) (step : Step) : (ofStep place after step).IsFresh := by
  cases step with
  | one request =>
    rw [ofStep]
    intro e mem
    rw [roles, List.mem_singleton] at mem
    exact ⟨after, request, by rw [mem]⟩
  | together items =>
    rw [ofStep]
    intro e mem
    rw [roles] at mem
    rcases List.mem_cons.mp mem with rfl | later
    · exact ⟨after, .aside (.sleep 0), rfl⟩
    · exact ofItems_fresh (place + 1) items e later

theorem ofItems_fresh (place : Nat) (items : List (Nat × Step)) :
    ∀ e ∈ rolesOf (ofItems place items).1, ∃ after request, e.2 = .ahead after request := by
  cases items with
  | nil =>
    rw [ofItems]
    simp [rolesOf]
  | cons item rest =>
    obtain ⟨after, step⟩ := item
    have first := ofStep_fresh place after step
    have others := ofItems_fresh (place + (ofStep place after step).size) rest
    rw [ofItems]
    intro e mem
    rcases List.mem_append.mp mem with here | there
    · exact first e here
    · exact others e there

end

mutual

theorem ofStep_numbered (place after : Nat) (step : Step) :
    (ofStep place after step).IsNumbered ∧ (ofStep place after step).seats =
      List.range' place (ofStep place after step).size := by
  cases step with
  | one request =>
    rw [ofStep, IsNumbered]
    exact ⟨trivial, by simp [seats, roles, size]⟩
  | together items =>
    obtain ⟨within, numbered, consecutive⟩ := ofItems_numbered (place + 1) items
    rw [ofStep, IsNumbered, seats_ensemble, size]
    have count : (ofItems (place + 1) items).2 - place - 1 =
        (ofItems (place + 1) items).2 - (place + 1) := by omega
    have split : (ofItems (place + 1) items).2 - place =
        (ofItems (place + 1) items).2 - (place + 1) + 1 := by omega
    refine ⟨⟨by omega, by rw [consecutive, count], numbered⟩, ?_⟩
    rw [consecutive, split, List.range'_succ]

theorem ofItems_numbered (place : Nat) (items : List (Nat × Step)) :
    place ≤ (ofItems place items).2 ∧ AreNumbered (ofItems place items).1 ∧
      seatsOf (ofItems place items).1 = List.range' place ((ofItems place items).2 - place) := by
  cases items with
  | nil =>
    rw [ofItems, AreNumbered]
    exact ⟨Nat.le_refl _, trivial, by simp [seatsOf, rolesOf]⟩
  | cons item rest =>
    obtain ⟨after, step⟩ := item
    obtain ⟨first, here⟩ := ofStep_numbered place after step
    obtain ⟨later, others, there⟩ := ofItems_numbered (place + (ofStep place after step).size) rest
    have unfolded : ofItems place ((after, step) :: rest) =
        (ofStep place after step :: (ofItems (place + (ofStep place after step).size) rest).1,
          (ofItems (place + (ofStep place after step).size) rest).2) := by
      rw [ofItems]
      rfl
    rw [unfolded, AreNumbered, seatsOf_cons, here, there]
    refine ⟨by dsimp only; omega, ⟨first, others⟩, ?_⟩
    dsimp only
    rw [List.range'_append_1]
    congr 1
    omega

end

end
end Part

/-! ### What is left to be done -/

/-- Among these places: how many are stirred, and how many acts have not ended. -/
def Scene.load (s : Scene) (acts : Nat → Act) (places : Finset Nat) : Nat :=
  (places.filter (· ∈ s.stirred)).card + (places.filter fun q => (acts q).left = 1).card

section
variable {s s' n' : Scene} {acts : Nat → Act} {seen : Nat → Prop} {place : Nat} {act : Act}
  {places : Finset Nat}

theorem Act.left_eq (act : Act) : act.left = 0 ∨ act.left = 1 := by
  cases act <;> simp [Act.left]

theorem stirred_card {stirred more : List Nat} (once : stirred.Nodup) (mem : place ∈ places) :
    (places.filter (· ∈ stirred.erase place ++ more)).card + (if place ∈ stirred then 1 else 0) ≤
      (places.filter (· ∈ stirred)).card + more.length := by
  have covered : places.filter (· ∈ stirred.erase place ++ more) ⊆
      (places.filter (· ∈ stirred)).erase place ∪ more.toFinset := by
    intro q here
    rw [Finset.mem_filter, List.mem_append] at here
    rw [Finset.mem_union, Finset.mem_erase, Finset.mem_filter, List.mem_toFinset]
    rcases here.2 with old | new
    · rw [once.mem_erase_iff] at old
      exact .inl ⟨old.1, here.1, old.2⟩
    · exact .inr new
  have bound := (Finset.card_le_card covered).trans (Finset.card_union_le _ _)
  have few := List.toFinset_card_le more
  split
  · rename_i before
    have here : place ∈ places.filter (· ∈ stirred) := Finset.mem_filter.mpr ⟨mem, before⟩
    have one := Finset.card_erase_add_one here
    omega
  · have fewer := Finset.card_erase_le (s := places.filter (· ∈ stirred)) (a := place)
    omega

theorem left_card (mem : place ∈ places) (fewer : act.left ≤ (acts place).left) :
    (places.filter fun q => (Function.update acts place act q).left = 1).card + (acts place).left ≤
      (places.filter fun q => (acts q).left = 1).card + act.left := by
  have others : places.filter (fun q => (Function.update acts place act q).left = 1) ⊆
      places.filter fun q => (acts q).left = 1 := by
    intro q here
    rw [Finset.mem_filter] at here ⊢
    refine ⟨here.1, ?_⟩
    by_cases same : q = place
    · rw [same, Function.update_self] at here
      rcases (acts place).left_eq with none | one
      · omega
      · rw [same]
        exact one
    · rw [Function.update_of_ne same] at here
      exact here.2
  have bound := Finset.card_le_card others
  rcases act.left_eq with ended | going
  · rcases (acts place).left_eq with none | one
    · omega
    · have apart : place ∉ places.filter fun q => (Function.update acts place act q).left = 1 := by
        rw [Finset.mem_filter, Function.update_self, ended]
        simp
      have strict := Finset.card_lt_card (others.ssubset_of_mem_notMem
        (Finset.mem_filter.mpr ⟨mem, one⟩) apart)
      omega
  · have one : (acts place).left = 1 := by
      rcases (acts place).left_eq with none | one
      · omega
      · exact one
    omega

theorem Goes.load_le (goes : Goes place acts seen s act s' n') (once : s.stirred.Nodup)
    (mem : place ∈ places) :
    s'.load (Function.update acts place act) places + (if place ∈ s.stirred then 1 else 0) ≤
      s.load acts places := by
  obtain ⟨more, stirred, few⟩ := goes.stirred
  have woken : (places.filter (· ∈ s'.stirred)).card + (if place ∈ s.stirred then 1 else 0) ≤
      (places.filter (· ∈ s.stirred)).card + more.length := by
    rw [stirred]
    exact stirred_card once mem
  have ended := left_card mem ((Nat.le_add_left _ _).trans few)
  unfold Scene.load
  omega

theorem Scene.load_le (s : Scene) (acts : Nat → Act) (places : Finset Nat) :
    s.load acts places ≤ 2 * places.card := by
  have stirred := Finset.card_filter_le places (· ∈ s.stirred)
  have left := Finset.card_filter_le places fun q => (acts q).left = 1
  unfold Scene.load
  omega

end
end FlowRuntime.Rehearsal
