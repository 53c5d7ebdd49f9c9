import FlowRuntime.Proofs.Rehearsal.Alone

/-!
From one step to the next, whoever listens. When a step has been left, those who listen go on
for as long as they have something to do, and everybody reads; of all that, nothing is left in
the scene with nobody else, in which the next step is played.
-/
namespace FlowRuntime.Rehearsal

open FlowRuntime.Rehearsal.Part

/-- Between two steps: no part is left, and no request is being carried out. -/
structure Recess (s : Scene) : Prop extends Vacant s where
  turn : s.turn = none
  line : s.line = []
  joiners : s.joiners = []
  stirred : s.stirred = []
  errands : s.errands = #[]
  cues : s.partCues = []

/-- With which scene the next step begins, if this one has been left and nobody listens. -/
def Scene.renewed (s : Scene) : Scene :=
  { s with
    now := 0
    world.calls := []
    turn := none
    line := []
    round := s.round + 1
    errands := #[] }

section
variable {s s' n : Scene} {p : Part} {i j : Interval}

theorem not_awaits_of_none (none : s.errands = #[]) : ¬ s.Awaits := by
  rintro ⟨i, sent, _⟩
  simp [none] at sent

theorem Vacant.leave (vacant : Vacant s) : Recess s.leave := by
  obtain ⟨orderly, roused, ⟨held, free, within⟩, later⟩ := vacant
  have past (handle : Handle) (r : Resident) (found : s.world.residents[handle]? = some r) (l : Letter)
      (mem : l ∈ r.mail) : l.round ≠ s.round + 1 :=
    Nat.ne_of_lt (Nat.lt_succ_of_le (orderly.past handle r found l mem))
  refine ⟨⟨⟨orderly.going, ?_, ?_, ?_⟩, ⟨roused.mailed, roused.called⟩, ⟨held, ⟨free.reaches, ?_⟩, within⟩,
    fun c mem => later c (List.mem_of_mem_filter mem)⟩, rfl, rfl, rfl, rfl, rfl, ?_⟩
  · exact fun handle r found l mem => Nat.le_succ_of_le (orderly.past handle r found l mem)
  · exact fun handle r found l mem current => absurd current (past handle r found l mem)
  · exact fun handle _ r _ found _ l mem _ _ current => absurd current (past handle r found l mem)
  · intro i within
    cases within
  · rw [Scene.partCues, List.filter_eq_nil_iff]
    intro c mem
    obtain ⟨_, listener⟩ := List.mem_filter.mp mem
    obtain ⟨time, p⟩ := c
    cases p with
    | part | resident => cases listener
    | listener i => simp [Player.isPart]

namespace Recess

theorem unawaited (recess : Recess s) : ¬ s.Awaits := not_awaits_of_none recess.errands

theorem uncued (recess : Recess s) : ∀ c ∈ s.cues, c.player.isPart = false := by
  have none := recess.cues
  rw [Scene.partCues, List.filter_eq_nil_iff] at none
  exact fun c mem => by simpa using none c mem

theorem workRound (recess : Recess s) (turns : Nat) :
    Recess (s.workRound turns) ∧ (s.workRound turns).hush = s.hush := by
  have served := Served.workRound recess.orderly (fun awaits => absurd awaits recess.unawaited)
    recess.joiners turns
  have roused := recess.roused.workRound turns
  generalize s.workRound turns = s' at served roused ⊢
  obtain ⟨errands, stirred, _⟩ := served.stirred.resolve_right fun awaits =>
    recess.unawaited awaits.1
  obtain ⟨held, free, within⟩ := recess.free
  have later : ∀ c ∈ s'.cues, s'.now < c.time := by
    intro c mem
    rw [served.now]
    exact (served.later c mem).elim (recess.later c) id
  obtain ⟨residents, _, audience, cues, _, called, same⟩ := served.frame
  refine ⟨⟨⟨served.orderly, roused, ⟨held, ⟨?_, ?_⟩, ?_⟩, later⟩, ?_, ?_, ?_, ?_, ?_, ?_⟩, served.hush⟩
  · exact fun handle mem => served.reaches handle (free.reaches handle mem)
  · intro i inside
    rw [errands, recess.errands] at inside
    cases inside
  · rw [same]
    exact within
  · exact served.turn.trans recess.turn
  · rw [same]
    exact recess.line
  · exact served.joiners.trans recess.joiners
  · exact stirred.trans recess.stirred
  · exact errands.trans recess.errands
  · exact served.partCues.trans recess.cues

theorem advance (recess : Recess s) (time : Nat) :
    Recess (s.advance time) ∧ (s.advance time).hush = { s.hush with now := time } := by
  have roused := recess.roused.attentive (attentive_advance s time)
  have parts := recess.uncued
  have nobody (keep : Cue → Bool) :
      ((s.cues.filter keep).map (·.player)).filterMap Player.place? = [] := by
    rw [List.filterMap_eq_nil_iff]
    intro p mem
    obtain ⟨c, here, rfl⟩ := List.mem_map.mp mem
    have other := parts c (List.mem_of_mem_filter here)
    obtain ⟨time, p⟩ := c
    cases p with
    | part place => cases other
    | resident | listener => rfl
  rw [advance_eq] at roused ⊢
  obtain ⟨⟨orderly, _, ⟨held, free, within⟩, _⟩, turn, line, joiners, stirred, errands, cues⟩ := recess
  refine ⟨⟨⟨⟨orderly.going, orderly.past, orderly.posted, orderly.single⟩, roused,
    ⟨held, free.same rfl rfl, within⟩, fun c mem => by simpa using (List.mem_filter.mp mem).2⟩,
    turn, line, joiners, ?_, errands, ?_⟩, rfl⟩
  · dsimp only
    rw [nobody, stirred]
    rfl
  · rw [Scene.partCues, List.filter_eq_nil_iff]
    intro c mem
    simp [parts c (List.mem_of_mem_filter mem)]

theorem resume (recess : Recess i.scene) : Recess i.resume := by
  obtain ⟨⟨orderly, roused, ⟨held, free, within⟩, later⟩, turn, line, joiners, stirred, errands, cues⟩ :=
    recess
  exact ⟨⟨⟨orderly.going, orderly.past, orderly.posted, orderly.single⟩, ⟨roused.mailed, roused.called⟩,
    ⟨held, free.same rfl rfl, within⟩, fun c mem => Nat.zero_lt_of_lt (later c mem)⟩, turn, line, joiners,
    stirred, errands, cues⟩

end Recess

theorem Vacant.settle (vacant : Vacant s) : Recess s.settle ∧
    ∀ readings, (Interval.resume ⟨s.settle, readings⟩).hush = s.hush.renewed := by
  have settled : Recess s.settle ∧ ∃ now, s.settle.hush = { s.leave.hush with now := now } := by
    apply Scene.settle_induction (P := fun s' =>
      Recess s' ∧ ∃ now, s'.hush = { s.leave.hush with now := now }) ⟨vacant.leave, s.leave.now, rfl⟩
    · rintro s' ⟨recess, now, same⟩
      obtain ⟨worked, hush⟩ := recess.workRound Scene.turnsInRound
      exact ⟨worked, now, hush.trans same⟩
    · rintro s' time ⟨recess, now, same⟩
      obtain ⟨advanced, hush⟩ := recess.advance time
      exact ⟨advanced, time, by rw [hush, same]⟩
  obtain ⟨recess, now, hush⟩ := settled
  refine ⟨recess, fun readings => ?_⟩
  have resumed : (Interval.resume ⟨s.settle, readings⟩).hush =
      { s.settle.hush with now := 0, world.calls := [] } := rfl
  rw [resumed, hush]
  rfl

/-! ### A step that begins -/

mutual

theorem ofStep_mild {step : Step} (mild : step.IsMild) (place after : Nat) :
    ∀ e ∈ (ofStep place after step).roles, e.2.IsMild := by
  cases step with
  | one request =>
    rw [Step.IsMild] at mild
    rw [ofStep, roles]
    intro e role
    rw [List.mem_singleton.mp role]
    exact mild
  | together items =>
    rw [Step.IsMild] at mild
    rw [ofStep, roles]
    intro e role
    rcases List.mem_cons.mp role with rfl | among
    · trivial
    · exact ofItems_mild mild (place + 1) e among

theorem ofItems_mild {items : List (Nat × Step)} (mild : Step.AreMild items) (place : Nat) :
    ∀ e ∈ rolesOf (ofItems place items).1, e.2.IsMild := by
  cases items with
  | nil =>
    rw [ofItems, rolesOf]
    intro e role
    cases role
  | cons item rest =>
    obtain ⟨after, step⟩ := item
    rw [Step.AreMild] at mild
    rw [ofItems]
    intro e role
    rw [rolesOf] at role
    rcases List.mem_append.mp role with here | there
    · exact ofStep_mild mild.1 place after e here
    · exact ofItems_mild mild.2 _ e there

end

/-- Whether an act is still ahead, or was never anyone's. -/
def Act.IsUnplayed (act : Act) : Prop :=
  act.IsMild ∧ (act = .ended 0 .done ∨ ∃ after request, act = .ahead after request)

theorem Act.IsUnplayed.apart {act : Act} (unplayed : act.IsUnplayed) : ¬ act.TakesTurn := by
  rcases unplayed.2 with rfl | ⟨after, request, rfl⟩ <;> exact id

theorem Act.IsUnplayed.undue {act : Act} (unplayed : act.IsUnplayed) (s : Scene) (time : Nat) :
    ¬ act.Due s time := by
  rcases unplayed.2 with rfl | ⟨after, request, rfl⟩ <;> exact id

theorem exists_unplayed {p : Part} (fresh : p.IsFresh) (once : p.seats.Nodup)
    (mild : ∀ e ∈ p.roles, e.2.IsMild) :
    ∃ acts, Embodied p.roles acts ∧ ∀ q, (acts q).IsUnplayed := by
  have embodied := embodied_of_nodup once (.ended 0 .done)
  refine ⟨_, embodied, fun q => ?_⟩
  by_cases sits : q ∈ p.seats
  · obtain ⟨e, role, rfl⟩ := List.mem_map.mp sits
    have here : (p.roles.lookup e.1).getD (.ended 0 .done) = e.2 := embodied e role
    rw [here]
    exact ⟨mild e role, .inr (fresh e role)⟩
  · have none : p.roles.lookup q = none := by
      rw [List.lookup_eq_none_iff]
      intro e role
      have other : q ≠ e.1 := by
        rintro rfl
        exact sits (List.mem_map_of_mem role)
      simpa using other
    rw [none]
    exact ⟨trivial, .inl rfl⟩

theorem Recess.uninvolved (recess : Recess s) (q : Nat) : ¬ s.Involves q := by
  rintro (stirred | lined | ⟨time, cued⟩)
  · rw [recess.stirred] at stirred
    cases stirred
  · rw [recess.line] at lined
    cases lined
  · cases recess.uncued _ cued

theorem Recess.hosted {acts : Nat → Act} (recess : Recess s)
    (unplayed : ∀ q, (acts q).IsUnplayed) : Hosted s acts fun _ => False := by
  refine ⟨fun q => ⟨(unplayed q).1, ?_, ?_, ?_, ?_, ?_, ?_, ?_⟩, fun _ => recess.free, recess.later, ?_,
    ?_⟩
  · exact fun u calls => absurd calls (Act.not_calling (unplayed q).apart u)
  · intro lined
    rw [recess.line] at lined
    cases lined
  · intro holds
    rw [recess.turn] at holds
    cases holds
  · intro holds
    rw [recess.turn] at holds
    cases holds
  · exact fun time due => absurd due ((unplayed q).undue s time)
  · exact False.elim
  · exact False.elim
  · rw [recess.stirred]
    exact List.nodup_nil
  · rw [recess.line]
    exact List.nodup_nil

theorem Recess.poised (recess : Recess s) {step : Step} (mild : step.IsMild) :
    ∃ acts, Poised (.ofStep 0 0 step) s acts fun _ => False := by
  have fresh := ofStep_fresh 0 0 step
  obtain ⟨numbered, consecutive⟩ := ofStep_numbered 0 0 step
  have once : (ofStep 0 0 step).seats.Nodup := by
    rw [consecutive]
    exact List.nodup_range'
  obtain ⟨acts, embodied, unplayed⟩ := exists_unplayed fresh once (ofStep_mild mild 0 0)
  generalize ofStep 0 0 step = p at fresh numbered once embodied ⊢
  refine ⟨acts, ⟨⟨.refl recess.orderly recess.roused, recess.hosted unplayed⟩, ?_, ?_, ?_, ?_, ?_⟩,
    ?_, fun q _ => (unplayed q).apart, recess.joiners, ?_⟩
  · rw [rolesOf_singleton]
    exact embodied
  · rw [AreSound, AreSound]
    exact ⟨sound_of_fresh p fresh, trivial⟩
  · rw [AreNumbered, AreNumbered]
    exact ⟨numbered, trivial⟩
  · rwa [seatsOf_singleton]
  · exact fun q _ involves => absurd involves (recess.uninvolved q)
  · exact fun q involves => absurd involves (recess.uninvolved q)
  · rw [fresh.inner]
    intro q mem
    cases mem

theorem Recess.tandem (recess : Recess s) : Tandem s s.hush := by
  have bare : s.bare = s.hush := by
    rw [Scene.bare, if_neg recess.unawaited, recess.cues, recess.stirred]
    rfl
  rw [← bare]
  exact tandem_bare recess.orderly recess.roused recess.unawaited

theorem Recess.plays (recess : Recess s) {step : Step} (mild : step.IsMild) {rounds : Nat}
    {calls : List (Nat × LoggedCall)}
    (timed : s.callsTimed? rounds (.ofStep 0 0 step) = some calls) :
    TakesCourse rounds (.ofStep 0 0 step) s s.hush calls := by
  obtain ⟨acts, poised⟩ := recess.poised mild
  exact poised.takesCourse recess.tandem timed

theorem Recess.comes (recess : Recess s) {step : Step} (mild : step.IsMild)
    {calls : List (Nat × LoggedCall)} {q : Part}
    (course : Course (Part.ofStep 0 0 step).muted s.hush calls q n) :
    ∃ rounds, (s.callsTimed? rounds (.ofStep 0 0 step)).isSome := by
  obtain ⟨acts, poised⟩ := recess.poised mild
  exact poised.comes recess.tandem course

end
end FlowRuntime.Rehearsal
