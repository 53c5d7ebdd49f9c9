import FlowRuntime.Proofs.Rehearsal.Pending

/-!
Parts that are played among others, and alone. Each look at a part that is not in vain is the
same as in the scene with nobody else. We verify from this that a part which comes to its end,
whoever listens and whatever becomes of records, takes the course that it takes alone.
-/
namespace FlowRuntime.Rehearsal

open FlowRuntime.Rehearsal.Part

/-- What is played within so many rounds, with this called, is the course that starts from that scene,
muted; when it has come to its end, no request is being carried out. -/
def TakesCourse (rounds : Nat) (p : Part) (s m : Scene) (calls : List (Nat × LoggedCall)) : Prop :=
  ∃ n', Course p.muted m calls (s.playRounds rounds p).1.muted n' ∧
    n'.hush = (s.playRounds rounds p).2.hush ∧
    (s.playRounds rounds p).2.world.calls.reverse = s.world.calls.reverse ++ calls.map (·.2) ∧
    ((s.playRounds rounds p).1.result?.isSome → Vacant (s.playRounds rounds p).2)

section
variable {s s' n n' : Scene} {p p' : Part} {acts : Nat → Act} {seen : Nat → Prop} {rounds : Nat}
  {calls : List (Nat × LoggedCall)}

theorem callsSince_calls (before : s.world.calls <:+ s'.world.calls) :
    s'.world.calls.reverse = s.world.calls.reverse ++ (s.callsSince s').map (·.2) := by
  obtain ⟨new, same⟩ := before
  have count : s'.world.calls.length - s.world.calls.length = new.length := by
    rw [← same, List.length_append, Nat.add_sub_cancel]
  rw [Scene.callsSince, count, ← same, List.take_left, List.map_map]
  simp [Function.comp_def]

theorem callsSince_congr (before : n.world.calls = s.world.calls)
    (after : n'.world.calls = s'.world.calls) (now : n'.now = s'.now) :
    n.callsSince n' = s.callsSince s' := by
  rw [Scene.callsSince, Scene.callsSince, before, after, now]

theorem Looks.poised {acts' : Nat → Act} {seen' : Nat → Prop} (poised : Poised p s acts seen)
    (looks : Looks [p] acts seen s [p'] acts' seen' s' n') (present : ∀ q ∈ presentOf [p'], seen' q) :
    Poised p' s' acts' seen' := by
  have seats : p'.seats = p.seats := by
    have same := seatsOf_congr looks.outline
    rwa [seatsOf_singleton, seatsOf_singleton] at same
  have involved (q : Nat) (involves : s'.Involves q) : q ∈ p'.present := by
    rw [← presentOf_singleton]
    rcases looks.involved q involves with before | here
    · exact looks.present (presentOf_singleton p ▸ poised.involved q before)
    · exact here
  refine ⟨⟨⟨.refl looks.duet.tandem.orderly looks.duet.tandem.roused, looks.duet.hosted⟩,
    looks.embodied, looks.sound, (areNumbered_congr looks.outline).mpr poised.onset.numbered,
    seatsOf_congr looks.outline ▸ poised.onset.once, ?_⟩, involved, ?_,
    looks.joiners.trans poised.alone, ?_⟩
  · intro q _ involves
    rw [presentOf_singleton]
    exact involved q involves
  · intro q stranger
    rw [seats] at stranger
    rw [looks.frame q (seatsOf_singleton p ▸ stranger)]
    exact poised.strangers q stranger
  · exact fun q mem => .inl (present q (presentOf_singleton p' ▸ inner_subset p' mem))

theorem Poised.pending (poised : Poised p s acts seen) (saw : ∀ q ∈ p.present, seen q)
    (unended : p.result? = none) (early : s.now < deadline) : Pending p s acts := by
  have hosted := poised.onset.duet.hosted
  refine ⟨⟨{ poised.onset with duet := ⟨poised.onset.duet.tandem, hosted.mono fun q here => saw q here.1⟩ },
    poised.involved, poised.strangers, poised.alone, ?_⟩, ?_, ?_, unended, Nat.le_of_lt early,
    fun _ => early⟩
  · intro q mem
    by_cases here : q ∈ s.stirred
    · exact .inr here
    · exact .inl ⟨inner_subset p mem, here⟩
  · intro awaits
    left
    rw [List.eq_nil_iff_forall_not_mem]
    intro q stirred
    -- whoever is stirred by now is first in line, but whose turn it is calls
    obtain ⟨holds, request, lined⟩ :=
      (hosted.placed q).stirs (saw q (poised.involved q (.inl stirred))) stirred
    obtain ⟨q', u, calls, holds'⟩ := hosted.calls awaits
    rw [holds, Option.some.injEq] at holds'
    rw [← holds', lined] at calls
    cases calls
  · exact fun _ q mem => (hosted.placed q).rests (saw q mem)

theorem Poised.vacant (poised : Poised p s acts seen) (found : p.result?.isSome) : Vacant s := by
  have tandem := poised.onset.duet.tandem
  refine ⟨tandem.orderly, tandem.roused, poised.onset.duet.hosted.free ?_,
    poised.onset.duet.hosted.later⟩
  intro q u calls
  by_cases sits : q ∈ p.seats
  · obtain ⟨time, finding, ended⟩ := ended_of_result p found (poised.role sits)
    rw [calls] at ended
    cases ended
  · refine poised.strangers q sits ?_
    rw [calls]
    trivial

theorem Poised.look (poised : Poised p s acts seen) (tandem : Tandem s n) :
    ∃ p' s' n', p.seeTo p.depth s = (p', s') ∧ p.muted.seeTo p.muted.depth n = (p'.muted, n') ∧
      Tandem s' n' ∧ s.world.calls <:+ s'.world.calls ∧
      (p'.result? = none → s'.now < deadline → ∃ acts', Pending p' s' acts') ∧
      (p'.result?.isSome → Vacant s') := by
  have onset : Onset [p] s n acts seen :=
    { poised.onset with duet := ⟨tandem, poised.onset.duet.hosted⟩ }
  obtain ⟨acts', seen', same, looks, present, _⟩ :=
    parallel_seeTo p.depth p s n acts seen (Nat.le_refl _) onset poised.within
  generalize p.seeTo p.depth s = now at same looks present
  rw [depth_muted]
  generalize p.muted.seeTo p.depth n = now' at same looks
  obtain ⟨p', s'⟩ := now
  obtain ⟨p'', n'⟩ := now'
  dsimp only at same looks present
  obtain rfl := muted_of_singleton same
  have poised' := looks.poised poised present
  refine ⟨p', s', n', rfl, rfl, looks.duet.tandem, looks.calls, ?_, poised'.vacant⟩
  intro unended early
  exact ⟨acts', poised'.pending (fun q mem => present q (presentOf_singleton p' ▸ mem)) unended early⟩

theorem Poised.plays (poised : Poised p s acts seen) (tandem : Tandem s n)
    (onward : ∀ p' s' acts' calls', Pending p' s' acts' → s'.callsTimed? rounds p' = some calls' →
      TakesCourse rounds p' s' s'.bare.proceed calls')
    (timed : s.callsTimed? (rounds + 1) p = some calls) :
    TakesCourse (rounds + 1) p s n calls := by
  obtain ⟨p', s', n', seen', alone, tandem', since, pending, vacant⟩ := poised.look tandem
  have called : n.world.calls = s.world.calls ∧ n'.world.calls = s'.world.calls := by
    obtain ⟨_, _, _, _, _, _, _, rfl⟩ := tandem.alike.frame
    obtain ⟨_, _, _, _, _, _, _, rfl⟩ := tandem'.alike.frame
    exact ⟨rfl, rfl⟩
  have news := callsSince_congr called.1 called.2 tandem'.now
  have found : p'.muted.result?.isSome = p'.result?.isSome := by
    rw [result?_muted, Option.isSome_map]
  rcases ended_or_goes p' s' with ended | ⟨unended, early⟩
  · obtain ⟨played, log⟩ := playRounds_ends seen' ended rounds
    rw [log, Option.some.injEq] at timed
    subst timed
    rw [TakesCourse, played, ← news]
    refine ⟨n', .ends alone ?_, tandem'.alike.hush_eq, ?_, vacant⟩
    · rw [found, tandem'.now]
      exact ended
    · rw [news]
      exact callsSince_calls since
  · obtain ⟨acts', pending⟩ := pending unended early
    obtain ⟨played, log⟩ := playRounds_goes seen' unended early rounds
    obtain ⟨worked, bare, calls₁⟩ := pending.workRound Scene.turnsInRound
    obtain ⟨pending', same, calls₂⟩ := worked.onward
    rw [log, Option.map_eq_some_iff] at timed
    obtain ⟨calls', timed, rfl⟩ := timed
    obtain ⟨n'', course, hush, called', vacant'⟩ := onward _ _ _ _ pending' timed
    rw [same, bare, ← tandem'.bare_eq] at course
    rw [TakesCourse, played, ← news]
    refine ⟨n'', .goes alone ?_ (tandem'.now ▸ early) course, hush, ?_, vacant'⟩
    · rw [result?_muted, unended]
      rfl
    · rw [called', calls₂, calls₁, callsSince_calls since, news, List.map_append, List.append_assoc]

def Scene.IsInVain (s : Scene) : Prop := (s.Awaits ∨ s.stirred = []) ∧ s.now < deadline

theorem Pending.ready (pending : Pending p s acts) (ready : ¬ s.IsInVain) :
    Tandem s s.bare.proceed := by
  have tandem := pending.onset.duet.tandem
  have unawaited : ¬ s.Awaits := fun awaits => ready ⟨.inl awaits, pending.hurries awaits⟩
  have still : s.bare.proceed = s.bare := by
    by_cases unstirred : s.stirred = []
    · have late : deadline ≤ s.now := Nat.le_of_not_lt fun early => ready ⟨.inr unstirred, early⟩
      refine proceed_late (s := s.bare) late pending.early fun c mem => ?_
      exact pending.onset.duet.hosted.later c (List.mem_of_mem_filter mem)
    · refine proceed_stirred ?_
      rwa [Scene.bare, if_neg unawaited]
  rw [still]
  exact tandem_bare tandem.orderly tandem.roused unawaited

theorem Pending.plays (pending : Pending p s acts) (timed : s.callsTimed? rounds p = some calls) :
    TakesCourse rounds p s s.bare.proceed calls := by
  induction rounds generalizing p s acts calls with
  | zero => cases timed
  | succ rounds ih =>
    by_cases vain : s.IsInVain
    · obtain ⟨s', pending', bare, same, _, next⟩ := pending.vainRound vain.1 vain.2
      obtain ⟨played, log⟩ := next rounds
      rw [log] at timed
      obtain ⟨n', course, hush, called, vacant⟩ := ih pending' timed
      rw [bare] at course
      rw [TakesCourse, played]
      exact ⟨n', course, hush, by rw [called, same], vacant⟩
    · exact pending.toPoised.plays (pending.ready vain)
        (fun _ _ _ _ pending' timed' => ih pending' timed') timed

theorem Poised.takesCourse (poised : Poised p s acts seen) (tandem : Tandem s n)
    (timed : s.callsTimed? rounds p = some calls) : TakesCourse rounds p s n calls := by
  cases rounds with
  | zero => cases timed
  | succ rounds => exact poised.plays tandem (fun _ _ _ _ pending timed => pending.plays timed) timed

/-! ### Parts that come to their end -/

theorem Pending.untilReady {s : Scene} (pending : Pending p s acts) :
    ∃ rounds s', Pending p s' acts ∧ s'.bare.proceed = s.bare.proceed ∧ ¬ s'.IsInVain ∧
      ∀ more, s.callsTimed? (rounds + more) p = s'.callsTimed? more p := by
  by_cases vain : s.IsInVain
  · obtain ⟨s', pending', bare, _, nearer, next⟩ := pending.vainRound vain.1 vain.2
    obtain ⟨rounds, s'', pending'', bare', ready, later⟩ := pending'.untilReady
    refine ⟨rounds + 1, s'', pending'', bare'.trans bare, ready, fun more => ?_⟩
    rw [Nat.succ_add, (next (rounds + more)).2, later]
  · exact ⟨0, s, pending, rfl, vain, fun more => by rw [Nat.zero_add]⟩
termination_by s.ahead
decreasing_by exact nearer

/-- A part that comes to its end with nobody else comes to its end, whoever listens. -/
theorem Poised.comes (poised : Poised p s acts seen) (tandem : Tandem s n) {q : Part}
    (course : Course p.muted n calls q n') : ∃ rounds, (s.callsTimed? rounds p).isSome := by
  generalize muted : p.muted = m at course
  induction course generalizing p s acts seen with
  | ends looked ended =>
    subst muted
    obtain ⟨p', s', n₁, here, alone, tandem', _⟩ := poised.look tandem
    rw [alone, Prod.mk.injEq] at looked
    obtain ⟨rfl, rfl⟩ := looked
    rw [result?_muted, Option.isSome_map, tandem'.now] at ended
    obtain ⟨_, log⟩ := playRounds_ends here ended 0
    exact ⟨1, by rw [log]; rfl⟩
  | goes looked unended early later ih =>
    subst muted
    obtain ⟨p', s', n₁, here, alone, tandem', _, pending, _⟩ := poised.look tandem
    rw [alone, Prod.mk.injEq] at looked
    obtain ⟨rfl, rfl⟩ := looked
    rw [result?_muted, Option.map_eq_none_iff] at unended
    rw [tandem'.now] at early
    obtain ⟨acts', pending⟩ := pending unended early
    obtain ⟨worked, bare, _⟩ := pending.workRound Scene.turnsInRound
    obtain ⟨onward, same, _⟩ := worked.onward
    obtain ⟨vain, s'', pending', bare', ready, skipped⟩ := onward.untilReady
    have goes := pending'.ready ready
    rw [bare', same, bare, ← tandem'.bare_eq] at goes
    obtain ⟨rounds, found⟩ := ih pending'.toPoised goes rfl
    refine ⟨vain + rounds + 1, ?_⟩
    obtain ⟨_, log⟩ := playRounds_goes here unended early (vain + rounds)
    rw [log, skipped, Option.isSome_map]
    exact found

end
end FlowRuntime.Rehearsal
