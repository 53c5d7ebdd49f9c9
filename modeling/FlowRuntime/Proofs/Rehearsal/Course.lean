import FlowRuntime.Proofs.Rehearsal.Bare

/-!
The course that a part takes with nobody else there. Between two looks at it everybody reads,
and if nobody is stirred then, time passes up to the next cue of a part. What is found, when it
is found, and what is called at which time are thereby determined. We verify that a part that
is played to its end, whoever listens, takes this course.
-/
namespace FlowRuntime.Rehearsal

namespace Scene

def nextTime (s : Scene) : Nat := min deadline (s.nextCue?.getD deadline)

def proceed (s : Scene) : Scene := if s.stirred.isEmpty then s.advance s.nextTime else s

def onward (s : Scene) : Scene := if s.isBusy then s else s.advance s.nextTime

def callsSince (s s' : Scene) : List (Nat × LoggedCall) :=
  ((s'.world.calls.take (s'.world.calls.length - s.world.calls.length)).reverse).map (s'.now, ·)

/-- What is called while a part is played, and at which time, if it comes to its end within so many
rounds. -/
def callsTimed? : (rounds : Nat) → Part → Scene → Option (List (Nat × LoggedCall))
  | 0, _, _ => none
  | rounds + 1, p, s =>
    let (p', s') := p.seeTo p.depth s
    if p'.result?.isSome || deadline ≤ s'.now then some (s.callsSince s')
    else (callsTimed? rounds p' (s'.workRound turnsInRound).onward).map (s.callsSince s' ++ ·)

end Scene

/-- The course of a part from one look at it to the last. -/
inductive Course : Part → Scene → List (Nat × LoggedCall) → Part → Scene → Prop where
  | ends {p p' : Part} {n n' : Scene} (seen : p.seeTo p.depth n = (p', n'))
      (ended : p'.result?.isSome ∨ deadline ≤ n'.now) : Course p n (n.callsSince n') p' n'
  | goes {p p' p'' : Part} {n n' n'' : Scene} {calls : List (Nat × LoggedCall)}
      (seen : p.seeTo p.depth n = (p', n')) (unended : p'.result? = none) (early : n'.now < deadline)
      (later : Course p' n'.bare.proceed calls p'' n'') :
      Course p n (n.callsSince n' ++ calls) p'' n''

section
variable {s s' n n' n₁ n₂ : Scene} {p p₁ p₂ : Part} {calls calls₁ calls₂ : List (Nat × LoggedCall)}
  {rounds : Nat}

theorem Course.unique (course₁ : Course p n calls₁ p₁ n₁) (course₂ : Course p n calls₂ p₂ n₂) :
    calls₁ = calls₂ ∧ p₁ = p₂ ∧ n₁ = n₂ := by
  induction course₁ generalizing calls₂ p₂ n₂ with
  | ends seen ended =>
    cases course₂ with
    | ends seen' ended' =>
      rw [seen, Prod.mk.injEq] at seen'
      obtain ⟨rfl, rfl⟩ := seen'
      exact ⟨rfl, rfl, rfl⟩
    | goes seen' unended early later =>
      rw [seen, Prod.mk.injEq] at seen'
      obtain ⟨rfl, rfl⟩ := seen'
      rcases ended with found | late
      · simp [unended] at found
      · omega
  | goes seen unended early later ih =>
    cases course₂ with
    | ends seen' ended =>
      rw [seen, Prod.mk.injEq] at seen'
      obtain ⟨rfl, rfl⟩ := seen'
      rcases ended with found | late
      · simp [unended] at found
      · omega
    | goes seen' unended' early' later' =>
      rw [seen, Prod.mk.injEq] at seen'
      obtain ⟨rfl, rfl⟩ := seen'
      obtain ⟨rfl, rfl, rfl⟩ := ih later'
      exact ⟨rfl, rfl, rfl⟩

/-! ### Rounds -/

theorem ended_or_goes (p : Part) (s : Scene) : (p.result?.isSome ∨ deadline ≤ s.now) ∨
    (p.result? = none ∧ s.now < deadline) := by
  by_cases ended : p.result?.isSome ∨ deadline ≤ s.now
  · exact .inl ended
  · rw [not_or, Bool.not_eq_true, Option.isSome_eq_false_iff, Option.isNone_iff_eq_none, Nat.not_le]
      at ended
    exact .inr ended

theorem playRounds_ends {p' : Part} (seen : p.seeTo p.depth s = (p', s'))
    (ended : p'.result?.isSome ∨ deadline ≤ s'.now) (rounds : Nat) :
    s.playRounds (rounds + 1) p = (p', s') ∧
      s.callsTimed? (rounds + 1) p = some (s.callsSince s') := by
  have over_now : (p'.result?.isSome || decide (deadline ≤ s'.now)) = true := by simpa using ended
  constructor
  · rw [Scene.playRounds, seen]
    exact if_pos over_now
  · rw [Scene.callsTimed?, seen]
    exact if_pos over_now

theorem playRounds_goes {p' : Part} (seen : p.seeTo p.depth s = (p', s'))
    (unended : p'.result? = none) (early : s'.now < deadline) (rounds : Nat) :
    s.playRounds (rounds + 1) p = (s'.workRound Scene.turnsInRound).onward.playRounds rounds p' ∧
      s.callsTimed? (rounds + 1) p =
        ((s'.workRound Scene.turnsInRound).onward.callsTimed? rounds p').map (s.callsSince s' ++ ·) := by
  have on_now : ¬ (p'.result?.isSome || decide (deadline ≤ s'.now)) = true := by
    simp [unended, early]
  constructor
  · rw [Scene.playRounds, seen]
    dsimp only
    rw [if_neg on_now, Scene.onward]
    split <;> rfl
  · rw [Scene.callsTimed?, seen]
    exact if_neg on_now

theorem callsSince_same (same : s'.world.calls = s.world.calls) : s.callsSince s' = [] := by
  rw [Scene.callsSince, same]
  simp

theorem callsTimed?_add (timed : s.callsTimed? rounds p = some calls) (more : Nat) :
    s.callsTimed? (rounds + more) p = some calls ∧
      s.playRounds (rounds + more) p = s.playRounds rounds p := by
  induction rounds generalizing p s calls with
  | zero => cases timed
  | succ rounds ih =>
    rw [Nat.succ_add]
    cases seen : p.seeTo p.depth s with
    | mk p' s' =>
      rcases ended_or_goes p' s' with ended | ⟨unended, early⟩
      · obtain ⟨played, log⟩ := playRounds_ends seen ended rounds
        obtain ⟨played', log'⟩ := playRounds_ends seen ended (rounds + more)
        exact ⟨log'.trans (log.symm.trans timed), played'.trans played.symm⟩
      · obtain ⟨played, log⟩ := playRounds_goes seen unended early rounds
        obtain ⟨played', log'⟩ := playRounds_goes seen unended early (rounds + more)
        rw [log, Option.map_eq_some_iff] at timed
        obtain ⟨later, timed, rfl⟩ := timed
        obtain ⟨timed', same⟩ := ih timed
        exact ⟨by rw [log', timed', Option.map_some], by rw [played', played, same]⟩

/-! ### Time -/

theorem nextTime_le {c : Cue} (mem : c ∈ s.cues) : s.nextTime ≤ c.time := by
  have listed : c.time ∈ s.cues.map (·.time) := List.mem_map_of_mem mem
  obtain ⟨least, next⟩ := Option.isSome_iff_exists.mp (List.isSome_min?_of_mem listed)
  rw [Scene.nextTime, Scene.nextCue?, next]
  exact (Nat.min_le_right _ _).trans ((List.min?_eq_some_iff.mp next).2 _ listed)

theorem nextTime_le_deadline (s : Scene) : s.nextTime ≤ deadline := Nat.min_le_left _ _

theorem le_nextTime {time : Nat} (early : time ≤ deadline) (all : ∀ c ∈ s.cues, time ≤ c.time) :
    time ≤ s.nextTime := by
  refine Nat.le_min.mpr ⟨early, ?_⟩
  cases next : s.nextCue? with
  | none => exact early
  | some least =>
    obtain ⟨c, mem, rfl⟩ := List.mem_map.mp (List.min?_eq_some_iff.mp next).1
    exact all c mem

theorem proceed_stirred (stirred : s.stirred ≠ []) : s.proceed = s :=
  if_neg (by simpa using stirred)

theorem proceed_unstirred (unstirred : s.stirred = []) : s.proceed = s.advance s.nextTime :=
  if_pos (by simpa using unstirred)

theorem advance_early {time : Nat} (unstirred : s.stirred = [])
    (early : ∀ c ∈ s.cues, time < c.time) : s.advance time = { s with now := time } := by
  have kept : s.cues.filter (time < ·.time) = s.cues :=
    List.filter_eq_self.mpr fun c mem => by simpa using early c mem
  have none : s.cues.filter (·.time ≤ time) = [] :=
    List.filter_eq_nil_iff.mpr fun c mem => by simpa using early c mem
  rw [advance_eq, kept, none]
  simp [unstirred, stirAll]

theorem proceed_advance {time : Nat} (unstirred : s.stirred = [])
    (parts : ∀ c ∈ s.cues, c.player.isPart = true) (within : time ≤ s.nextTime) :
    (s.advance time).proceed = s.proceed := by
  rw [proceed_unstirred unstirred]
  by_cases cued : ∃ c ∈ s.cues, c.time ≤ time
  · obtain ⟨c, mem, past⟩ := cued
    have same : time = s.nextTime := Nat.le_antisymm within ((nextTime_le mem).trans past)
    rw [← same]
    apply proceed_stirred
    obtain ⟨_, p⟩ := c
    have part := parts _ mem
    cases p with
    | resident | listener => cases part
    | part place =>
      exact List.ne_nil_of_mem (mem_stirred_advance.mpr (.inr ⟨_, mem, past⟩))
  · have early : ∀ c ∈ s.cues, time < c.time := fun c mem =>
      Nat.lt_of_not_le fun past => cued ⟨c, mem, past⟩
    rw [advance_early unstirred early, proceed_unstirred (s := { s with now := time }) unstirred,
      advance_eq, advance_eq]
    rfl

theorem proceed_late (late : deadline ≤ s.now) (early : s.now ≤ deadline)
    (cued : ∀ c ∈ s.cues, s.now < c.time) : s.proceed = s := by
  have now : s.now = deadline := Nat.le_antisymm early late
  unfold Scene.proceed
  split
  · rename_i unstirred
    have last : s.nextTime = deadline := Nat.le_antisymm (nextTime_le_deadline s)
      (le_nextTime (Nat.le_refl _) fun c mem => now ▸ Nat.le_of_lt (cued c mem))
    rw [last, advance_early (by simpa using unstirred) fun c mem => now ▸ cued c mem, ← now]
  · rfl

/-! ### Scenes that are alike -/

theorem awaits_iff_hush (s : Scene) : s.Awaits ↔
    ∃ i : Nat, s.errands[i]? = some (.sent none) ∧ s.hush.errands[i]? ≠ some (.sent none) := by
  have heard (i : Nat) (sent : s.errands[i]? = some (.sent none)) :
      s.hush.errands[i]? = some (((s.foresees i).map Errand.ended).getD (.sent none)) := by
    simp [Scene.hush, sent, Scene.foreseen]
  constructor
  · rintro ⟨i, sent, foreseen⟩
    obtain ⟨outcome, here⟩ := Option.ne_none_iff_exists'.mp foreseen
    exact ⟨i, sent, by rw [heard i sent, here]; simp⟩
  · rintro ⟨i, sent, other⟩
    refine ⟨i, sent, ?_⟩
    intro none
    rw [heard i sent, none] at other
    exact other rfl

theorem Tandem.awaits (tandem : Tandem s n) : n.Awaits ↔ s.Awaits := by
  have sent (i : Nat) : n.errands[i]? = some (.sent none) ↔ s.errands[i]? = some (.sent none) := by
    have heard := tandem.alike.getElem? i
    cases here : s.errands[i]? with
    | none =>
      rw [here, Option.map_none, Option.map_eq_none_iff] at heard
      rw [heard]
    | some e =>
      rw [here, Option.map_some, Option.map_eq_some_iff] at heard
      obtain ⟨e', there, same⟩ := heard
      rw [there, Option.some.injEq, Option.some.injEq, ← Errand.heard_eq_sent, same,
        Errand.heard_eq_sent]
  simp only [awaits_iff_hush, tandem.alike.hush_eq, sent]

theorem Tandem.bare_eq (tandem : Tandem s n) : n.bare = s.bare := by
  have turn : n.turn = s.turn := by
    obtain ⟨_, _, _, _, _, _, _, rfl⟩ := tandem.alike.frame
    rfl
  have stirred : (if n.Awaits then n.turn.toList else n.stirred) =
      if s.Awaits then s.turn.toList else s.stirred := by
    simp only [tandem.awaits, turn, tandem.paced.stirred]
  rw [Scene.bare, Scene.bare, tandem.alike.hush_eq, tandem.paced.cues, stirred]

theorem tandem_bare (orderly : s.Orderly) (roused : Roused s) (unawaited : ¬ s.Awaits) :
    Tandem s s.bare := by
  refine ⟨?_, ⟨?_, ?_⟩, orderly, roused⟩
  · exact (alike_hush orderly unawaited).noise (.refl s) ⟨_, _, _, _, _, rfl⟩
  · rw [Scene.bare, if_neg unawaited]
  · simp [Scene.bare, Scene.partCues]

theorem Tandem.refl (orderly : s.Orderly) (roused : Roused s) : Tandem s s := by
  refine ⟨⟨⟨_, _, _, _, _, _, _, rfl⟩, rfl, rfl, ?_⟩, ⟨rfl, rfl⟩, orderly, roused⟩
  intro h r r' found found'
  rw [found] at found'
  cases found'
  exact ⟨rfl, [], rfl, rfl, fun l mem => by cases mem⟩

end
end FlowRuntime.Rehearsal
