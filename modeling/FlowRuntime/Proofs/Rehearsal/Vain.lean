import FlowRuntime.Proofs.Rehearsal.Parallel

/-!
Looks in vain. When nothing is to be done about anyone present, for nobody's time has come,
nobody has been given the turn and not all answers are there, a part that is seen to is left
as it is: of the scene, no more changes than that the answers that have come are taken, and
that nobody is stirred who has been seen to.
-/
namespace FlowRuntime.Rehearsal

open FlowRuntime.Rehearsal.Part

/-- Only answers that have come have been taken, and some may not be stirred any more. -/
structure InVain (s s' : Scene) : Prop where
  frame : ∃ stirred errands, s' = { s with stirred, errands }
  stirred : s'.stirred.Sublist s.stirred
  errands : ∀ i : Nat, s'.errands[i]? = s.errands[i]? ∨
    ∃ outcome, s.errands[i]? = some (.sent (some outcome)) ∧ s'.errands[i]? = some (.ended outcome)

structure Act.IsIdle (place : Nat) (s : Scene) (act : Act) : Prop where
  mild : act.IsMild
  rests : act.Rests s
  calling : ∀ u, act = .calling u → s.turn = some place
  unripe : s.turn = some place → ¬ act.IsRipe s

section
variable {s s' s'' : Scene} {place i : Nat} {act : Act} {p : Part} {members : List Part}

namespace InVain

theorem refl (s : Scene) : InVain s s := ⟨⟨_, _, rfl⟩, .refl _, fun _ => .inl rfl⟩

theorem trans (first : InVain s s') (second : InVain s' s'') : InVain s s'' where
  frame := by
    obtain ⟨_, _, rfl⟩ := first.frame
    obtain ⟨_, _, rfl⟩ := second.frame
    exact ⟨_, _, rfl⟩
  stirred := second.stirred.trans first.stirred
  errands i := by
    rcases second.errands i with same | ⟨outcome, came, taken⟩
    · rw [same]
      exact first.errands i
    · rcases first.errands i with same | ⟨outcome', came', taken'⟩
      · exact .inr ⟨outcome, same ▸ came, taken⟩
      · rw [taken'] at came
        cases came

theorem foldl {ι : Type} {f : Scene → ι → Scene} {items : List ι}
    (each : ∀ s', InVain s s' → ∀ e ∈ items, InVain s' (f s' e)) : InVain s (items.foldl f s) := by
  refine List.foldlRecOn items f (refl s) ?_
  intro s' before e mem
  exact before.trans (each s' before e mem)

theorem unstir (s : Scene) (place : Nat) : InVain s (s.unstir place) :=
  ⟨⟨_, _, rfl⟩, List.erase_sublist, fun _ => .inl rfl⟩

theorem now (vain : InVain s s') : s'.now = s.now := by
  obtain ⟨_, _, rfl⟩ := vain.frame
  rfl

theorem turn (vain : InVain s s') : s'.turn = s.turn := by
  obtain ⟨_, _, rfl⟩ := vain.frame
  rfl

theorem givenUpAt (vain : InVain s s') : s'.givenUpAt = s.givenUpAt := by
  obtain ⟨_, _, rfl⟩ := vain.frame
  rfl

theorem heard (vain : InVain s s') (i : Nat) :
    s'.errands[i]?.map Errand.heard = s.errands[i]?.map Errand.heard := by
  rcases vain.errands i with same | ⟨outcome, came, taken⟩
  · rw [same]
  · rw [came, taken]
    rfl

theorem delayed (vain : InVain s s') {time : Option Nat} {failure : Option String} :
    s'.errands[i]? = some (.delayed time failure) ↔ s.errands[i]? = some (.delayed time failure) := by
  rcases vain.errands i with same | ⟨outcome, came, taken⟩
  · rw [same]
  · simp [came, taken]

theorem isOut (vain : InVain s s') (out : s'.isOut i = true) : s.isOut i = true := by
  rcases vain.errands i with same | ⟨outcome, came, taken⟩
  · rwa [Scene.isOut, same] at out
  · simp [Scene.isOut, taken, Errand.outcome?] at out

theorem fanDue (vain : InVain s s') {time : Nat} (due : s'.FanDue time) : s.FanDue time := by
  rcases due with ⟨i, failure, stands⟩ | ⟨⟨i, out⟩, given⟩
  · exact .inl ⟨i, failure, vain.delayed.mp stands⟩
  · exact .inr ⟨⟨i, vain.isOut out⟩, vain.givenUpAt ▸ given⟩

theorem size (vain : InVain s s') : s'.errands.size = s.errands.size := by
  have heard : s'.errands.map Errand.heard = s.errands.map Errand.heard := by
    apply Array.ext_getElem?
    intro i
    rw [Array.getElem?_map, Array.getElem?_map, vain.heard]
  simpa using congrArg Array.size heard

theorem known (vain : InVain s s') : s'.AllKnown ↔ s.AllKnown := by
  simp only [Scene.AllKnown, Scene.Knows, vain.heard, vain.size]

theorem idle (vain : InVain s s') (idle : act.IsIdle place s) : act.IsIdle place s' where
  mild := idle.mild
  rests := by
    refine ⟨idle.rests.begun, ?_⟩
    intro time due
    rw [vain.now]
    refine idle.rests.later time ?_
    cases act with
    | calling u =>
      obtain ⟨call, fate, resume⟩ := u
      cases call with
      | fanOut op targets => exact vain.fanDue due
      | bind | repartition | start => exact due
    | ahead | waiting | inLine | resting | joining | ended => exact due
  calling u calls := vain.turn.trans (idle.calling u calls)
  unripe holds ripe := by
    refine idle.unripe (vain.turn ▸ holds) ?_
    cases act with
    | calling u =>
      obtain ⟨call, fate, resume⟩ := u
      cases call with
      | fanOut op targets => exact vain.known.mp ripe
      | bind | repartition | start => exact ripe
    | ahead | waiting | inLine | resting | joining | ended => exact ripe

theorem hush_eq (vain : InVain s s') : s'.hush = s.hush := by
  have foresees (i : Nat) : s'.foresees i = s.foresees i := by
    obtain ⟨_, _, rfl⟩ := vain.frame
    rfl
  have errands : s'.errands.mapIdx s'.foreseen = s.errands.mapIdx s.foreseen := by
    apply Array.ext_getElem?
    intro i
    rw [Array.getElem?_mapIdx, Array.getElem?_mapIdx]
    rcases vain.errands i with same | ⟨outcome, came, taken⟩
    · rw [same]
      congr 1
      funext e
      cases e with
      | sent answer => cases answer <;> simp [Scene.foreseen, foresees]
      | delayed | ended => rfl
    · rw [came, taken]
      rfl
  obtain ⟨_, _, rfl⟩ := vain.frame
  simp only [Scene.hush] at errands ⊢
  rw [errands]
  rfl

theorem awaits (vain : InVain s s') : s'.Awaits ↔ s.Awaits := by
  have foresees (i : Nat) : s'.foresees i = s.foresees i := by
    obtain ⟨_, _, rfl⟩ := vain.frame
    rfl
  have sent (i : Nat) : s'.errands[i]? = some (.sent none) ↔ s.errands[i]? = some (.sent none) := by
    rcases vain.errands i with same | ⟨outcome, came, taken⟩
    · rw [same]
    · simp [came, taken]
  simp only [Scene.Awaits, foresees, sent]

end InVain

/-! ### Acts -/

theorem vain_attendErrand (op : InstanceOp) (i : Nat) (handle : Handle)
    (later : ∀ time, s.FanDue time → s.now < time) : InVain s (s.attendErrand op i handle) := by
  have pursued : InVain s (s.pursue op i handle) := by
    unfold Scene.pursue
    split
    · rename_i time failure stands
      have early : s.isUp time = false := by
        cases time with
        | none => rfl
        | some time =>
          have upcoming := later time (.inl ⟨i, failure, stands⟩)
          simpa [Scene.isUp] using upcoming
      rw [early]
      exact .refl s
    · rename_i outcome stands
      refine ⟨⟨_, _, rfl⟩, .refl _, ?_⟩
      intro j
      rw [getElem?_setErrand]
      split
      · rename_i here
        subst here
        exact .inr ⟨outcome, stands, by rw [stands]; rfl⟩
      · exact .inl rfl
    · exact .refl s
  rw [Scene.attendErrand_eq, Scene.giveUp, if_neg]
  · exact pursued
  · intro given
    rw [Bool.and_eq_true, Scene.isUp, Option.any_eq_true] at given
    obtain ⟨out, time, at_limit, up⟩ := given
    have due : s.FanDue time := pursued.fanDue (.inr ⟨⟨i, out⟩, at_limit⟩)
    have upcoming := later time due
    rw [pursued.now, decide_eq_true_eq] at up
    omega

theorem goOn_vain (place : Nat) {u : Undertaking Finding} (later : ∀ time, u.Due s time → s.now < time)
    (unripe : ¬ u.IsRipe s) : ∃ s', s.goOn place u = (s', .inl u) ∧ InVain s s' := by
  obtain ⟨call, fate, resume⟩ := u
  rw [Scene.goOn_eq]
  have early (isDue : ∀ time, fate.delay = some time → Undertaking.Due s ⟨call, fate, resume⟩ time) :
      s.isUp fate.delay = false := by
    cases due : fate.delay with
    | none => rfl
    | some time =>
      have upcoming := later time (isDue time due)
      simpa [Scene.isUp] using upcoming
  cases call with
  | fanOut op targets =>
    have vain : InVain s (s.attendErrands op targets) := by
      refine .foldl (f := fun s (e : (StageKey × Handle) × Nat) => s.attendErrand op e.2 e.1.2) ?_
      intro s' before e _
      refine vain_attendErrand op e.2 e.1.2 ?_
      intro time due
      rw [before.now]
      exact later time (before.fanDue due)
    have unreported : (s.attendErrands op targets).report? targets = none := by
      by_contra reported
      obtain ⟨report, found⟩ := Option.ne_none_iff_exists'.mp reported
      exact unripe (vain.known.mp (known_of_report found))
    refine ⟨_, ?_, vain⟩
    simp only [Scene.answer?, unreported, Scene.follow]
  | bind groups =>
    refine ⟨s, ?_, .refl s⟩
    simp [Scene.answer?, Scene.single?, early fun _ => id, Scene.follow]
  | repartition group =>
    refine ⟨s, ?_, .refl s⟩
    simp [Scene.answer?, Scene.single?, early fun _ => id, Scene.follow]
  | start options =>
    refine ⟨s, ?_, .refl s⟩
    simp [Scene.answer?, Scene.single?, early fun _ => id, Scene.follow, Scene.greet]

theorem seeTo_idle (idle : act.IsIdle place s) :
    ∃ s', (s.unstir place).seeTo place act = (s', act) ∧ InVain s s' := by
  have unstirred := InVain.unstir s place
  have vain := unstirred.idle idle
  cases act with
  | ahead after request => exact absurd rfl (idle.rests.begun after request)
  | waiting due request =>
    have upcoming : ¬ due ≤ (s.unstir place).now := Nat.not_le.mpr (idle.rests.later due rfl)
    refine ⟨_, ?_, unstirred⟩
    rw [Scene.seeTo, if_neg upcoming]
  | inLine request =>
    have elsewhere : (s.unstir place).turn ≠ some place := fun holds => idle.unripe holds trivial
    refine ⟨_, ?_, unstirred⟩
    rw [Scene.seeTo, if_neg elsewhere]
  | calling u =>
    obtain ⟨s', same, vain'⟩ := goOn_vain place vain.rests.later
      (vain.unripe (vain.calling u rfl))
    refine ⟨s', ?_, unstirred.trans vain'⟩
    rw [Scene.seeTo, same]
    rfl
  | resting due =>
    have upcoming : ¬ due ≤ (s.unstir place).now := Nat.not_le.mpr (idle.rests.later due rfl)
    refine ⟨_, ?_, unstirred⟩
    rw [Scene.seeTo, if_neg upcoming]
  | joining listeners due => exact idle.mild.elim
  | ended time finding => exact ⟨_, rfl, unstirred⟩

/-! ### Parts -/

def AreIdle (members : List Part) (s : Scene) : Prop :=
  ∀ e ∈ rolesOf members, e.1 ∈ presentOf members → e.2.IsIdle e.1 s

theorem AreIdle.member (idle : AreIdle members s) (mem : p ∈ members) : AreIdle [p] s := by
  intro e role present
  refine idle e ?_ (mem_presentOf.mpr ⟨p, mem, presentOf_singleton p ▸ present⟩)
  rw [rolesOf_singleton] at role
  clear idle present
  induction members with
  | nil => cases mem
  | cons head rest ih =>
    rw [rolesOf]
    rcases List.mem_cons.mp mem with rfl | later
    · exact List.mem_append_left _ role
    · exact List.mem_append_right _ (ih later)

theorem AreIdle.vain (idle : AreIdle members s) (vain : InVain s s') : AreIdle members s' :=
  fun e role present => vain.idle (idle e role present)

/-- Seen to like this in a scene, a part is left as it is. -/
def Spared (see : Part → Scene → Part × Scene) (p : Part) (s : Scene) : Prop :=
  ∃ s', see p s = (p, s') ∧ InVain s s'

variable {see : Part → Scene → Part × Scene}

theorem seeToEach_vain (spared : ∀ m ∈ members, ∀ s', InVain s s' → Spared see m s') :
    ∃ s', seeToEach see members s = (members, s') ∧ InVain s s' := by
  induction members generalizing s with
  | nil => exact ⟨s, rfl, .refl s⟩
  | cons p rest ih =>
    obtain ⟨s₁, seen, vain⟩ := spared p List.mem_cons_self s (.refl s)
    obtain ⟨s₂, others, vain'⟩ := ih fun m mem s' later =>
      spared m (List.mem_cons_of_mem _ mem) s' (vain.trans later)
    refine ⟨s₂, ?_, vain.trans vain'⟩
    rw [seeToEach, seen]
    dsimp only
    rw [others]

theorem seeToStirred_vain (fuel : Nat)
    (spared : ∀ m ∈ members, ∀ s', InVain s s' → Spared see m s') :
    ∃ s', seeToStirred see fuel members s = (members, s') ∧ InVain s s' := by
  induction fuel generalizing s with
  | zero => exact ⟨s, rfl, .refl s⟩
  | succ fuel ih =>
    rw [seeToStirred]
    split
    · exact ⟨s, rfl, .refl s⟩
    · rename_i i _
      split
      · exact ⟨s, rfl, .refl s⟩
      · rename_i p found
        obtain ⟨s₁, seen, vain⟩ := spared p (List.mem_of_getElem? found) s (.refl s)
        obtain ⟨s₂, others, vain'⟩ := ih fun m mem s' later => spared m mem s' (vain.trans later)
        refine ⟨s₂, ?_, vain.trans vain'⟩
        obtain ⟨within, here⟩ := List.getElem?_eq_some_iff.mp found
        rw [seen]
        dsimp only
        rw [← here, List.set_getElem_self within, others]

theorem seeToMembers_vain (fuel : Nat) (wasBegun : Bool)
    (spared : ∀ m ∈ members, ∀ s', InVain s s' → Spared see m s') :
    ∃ s', seeToMembers see fuel wasBegun members s = (members, s') ∧ InVain s s' := by
  have first : ∃ s₁, (if wasBegun && smallEnsemble < members.length then (members, s)
      else seeToEach see members s) = (members, s₁) ∧ InVain s s₁ := by
    split
    · exact ⟨s, rfl, .refl s⟩
    · exact seeToEach_vain spared
  obtain ⟨s₁, same, vain⟩ := first
  rw [seeToMembers, same]
  dsimp only
  split
  · obtain ⟨s₂, others, vain'⟩ := seeToStirred_vain fuel fun m mem s' later =>
      spared m mem s' (vain.trans later)
    exact ⟨s₂, others, vain.trans vain'⟩
  · exact ⟨s₁, rfl, vain⟩

theorem solo_spared (depth place : Nat) (act : Act) (idle : AreIdle [.solo place act] s) :
    Spared (Part.seeTo depth) (.solo place act) s := by
  obtain ⟨s', seen, vain⟩ := seeTo_idle (idle (place, act) (by simp [rolesOf, roles])
    (by simp [presentOf, present]))
  refine ⟨s', ?_, vain⟩
  rw [Part.seeTo, seen]

theorem spared_of_idle (depth : Nat) (idle : AreIdle [p] s) : Spared (Part.seeTo depth) p s := by
  induction depth generalizing p s with
  | zero =>
    cases p with
    | solo place act => exact solo_spared 0 place act idle
    | ensemble place size entrance members => exact ⟨s, rfl, .refl s⟩
  | succ depth ih =>
    cases p with
    | solo place act => exact solo_spared (depth + 1) place act idle
    | ensemble place size entrance members =>
      have waits := idle (place, entrance.act) (by simp [rolesOf, roles]) (by
        cases entrance <;> simp [presentOf, present])
      obtain ⟨s₁, entered, vain⟩ := seeTo_idle waits
      rw [Scene.seeTo_entrance, Prod.mk.injEq] at entered
      obtain ⟨there, same⟩ := entered
      have entered : (s.unstir place).enter place entrance = (s₁, entrance) :=
        Prod.ext there (Entrance.eq_of_act same)
      rw [Spared, seeTo_ensemble, entered]
      cases entrance with
      | ahead | waiting => exact ⟨s₁, rfl, vain⟩
      | begun time =>
        have within : AreIdle members s := by
          intro e role here
          refine idle e ?_ ?_
          · rw [rolesOf_singleton, roles]
            exact List.mem_cons_of_mem _ role
          · rw [presentOf_singleton, present]
            exact List.mem_cons_of_mem _ here
        have spared : ∀ m ∈ members, ∀ s', InVain s₁ s' → Spared (Part.seeTo depth) m s' :=
          fun m mem s' later => ih ((within.member mem).vain (vain.trans later))
        obtain ⟨s₂, others, vain'⟩ := seeToMembers_vain (size * size)
          (Entrance.hasBegun (.begun time)) spared
        exact ⟨s₂, by simp only [others], vain.trans vain'⟩

end
end FlowRuntime.Rehearsal
