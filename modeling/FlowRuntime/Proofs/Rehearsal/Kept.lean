import FlowRuntime.Rehearsal.Performance

/-!
Inductions along what goes on in a scene. What the small steps keep, the errands, activities and
rounds that are made of them keep as well; so a fact about scenes, or about how a scene relates to
one before it, is shown once for each small step.
-/
namespace FlowRuntime.Rehearsal

/-! ### Places in an array -/

section
variable {α : Type} {xs : Array α} {i j : Nat} {x y : α}

theorem getElem?_set_cases (found : (xs.setIfInBounds i x)[j]? = some y) :
    (j = i ∧ y = x ∧ i < xs.size) ∨ (j ≠ i ∧ xs[j]? = some y) := by
  rw [Array.getElem?_setIfInBounds] at found
  split at found
  · rename_i here
    split at found
    · rename_i within
      cases found
      exact .inl ⟨here.symm, rfl, within⟩
    · cases found
  · rename_i other
    exact .inr ⟨Ne.symm other, found⟩

theorem getElem?_push_cases (found : (xs.push x)[j]? = some y) :
    (j = xs.size ∧ y = x) ∨ (j ≠ xs.size ∧ xs[j]? = some y) := by
  rw [Array.getElem?_push] at found
  split at found
  · rename_i last
    cases found
    exact .inl ⟨last, rfl⟩
  · rename_i other
    exact .inr ⟨other, found⟩

end

namespace Scene
variable {P : Scene → Prop} {s : Scene}

/-! ### News and waits -/

theorem wake_induction {p : Player} (holds : P s)
    (stirred : ∀ place, P { s with stirred := s.stirred ++ [place] })
    (called : P { s with called := s.called ++ [p] }) : P (s.wake p) := by
  cases p with
  | part place =>
    simp only [wake]
    split
    · exact holds
    · exact stirred place
  | resident handle => exact called
  | listener i => exact called

theorem cueAt_induction (holds : P s) {place : Nat}
    (cued : ∀ time, s.now < time → P (s.cue time (.part place))) (time : Option Nat) :
    P (s.cueAt time place) := by
  unfold cueAt
  split
  · exact holds
  · split
    · rename_i later
      exact cued _ later
    · exact holds

theorem see_induction {run : Run} (taken : P { s with run := run })
    (told : ∀ s n, P s → P { s with audience := s.audience.tell n })
    (woken : ∀ s players, P s → P (s.wakeAll players)) : P (s.see run) := by
  unfold see
  refine List.foldlRecOn _ _ taken ?_
  intro s' holds t _
  exact woken _ _ (told s' _ holds)

theorem noteAnswer_induction {l : Letter} {outcome : Outcome} (holds : P s)
    (noted : P (s.setErrand l.place (.sent (some outcome))))
    (woken : ∀ s players, P s → P (s.wakeAll players)) : P (s.noteAnswer l outcome) := by
  unfold noteAnswer
  split
  · exact holds
  · split
    · exact woken _ _ noted
    · exact holds

theorem noteAnswers_induction (holds : P s)
    (noted : ∀ s l outcome, P s → P (s.noteAnswer l outcome)) (answers : List (Letter × Outcome)) :
    P (answers.foldl (fun s a => s.noteAnswer a.1 a.2) s) :=
  List.foldlRecOn _ _ holds fun s' holds a _ => noted s' a.1 a.2 holds

theorem residentReads_induction {handle : Handle}
    (read : P { s with world := (s.world.read handle).1 })
    (noted : ∀ s l outcome, P s → P (s.noteAnswer l outcome)) : P (s.residentReads handle) :=
  noteAnswers_induction read noted _

theorem listenerWorks_induction {i : Nat} (worked : P { s with audience := s.audience.work s.now i })
    (woken : ∀ s (places : List Nat), P s → P (s.wakeAll (places.map .part)))
    (cued : ∀ s time, P s → P (s.cue time (.listener i))) : P (s.listenerWorks i) := by
  unfold listenerWorks
  dsimp only
  split
  · exact worked
  · rename_i l found
    have told : P (if l.isOver then
        wakeAll { s with audience := s.audience.work s.now i } (s.joiners.map .part)
        else { s with audience := s.audience.work s.now i }) := by
      split
      · exact woken _ _ worked
      · exact worked
    split
    · exact told
    · exact cued _ _ told

/-! ### Errands and calls -/

theorem attendErrand_induction {op : InstanceOp} {i : Nat} {handle : Handle} (holds : P s)
    (ended : ∀ s outcome, P s → P (s.setErrand i (.ended outcome)))
    (sent : P (s.send i handle op)) : P (s.attendErrand op i handle) := by
  have late {s' : Scene} (gone : P s') : P (if s'.isOut i && s'.isUp s'.givenUpAt then
      s'.setErrand i (.ended (.error (.timedOut (s'.limit.getD 0)))) else s') := by
    split
    · exact ended _ _ gone
    · exact gone
  refine late ?_
  split
  · split
    · exact holds
    · split
      · exact ended _ _ holds
      · exact sent
  · exact ended _ _ holds
  · exact holds

theorem startErrand_induction {place : Nat} {op : InstanceOp} {target : StageKey × Handle}
    (begun : ∀ e, P { s with
      world := (s.world.meet (.request op target.1)).1
      errands := s.errands.push e })
    (attended : ∀ s i, P s → P (s.attendErrand op i target.2))
    (cued : ∀ s time, P s → P (s.cueAt time place)) : P (s.startErrand place op target) := by
  unfold startErrand
  dsimp only
  split
  · exact cued _ _ (cued _ _ (attended _ _ (begun _)))
  · exact attended _ _ (begun _)

theorem beginCall_induction {place : Nat} {call : Call}
    (single : ∀ logged, P (s.beginSingle place logged).1)
    (opened : P { s with round := s.round + 1, since := s.now, errands := #[] })
    (started : ∀ s op target, P s → P (s.startErrand place op target)) :
    P (s.beginCall place call).1 := by
  cases call with
  | bind groups => exact single _
  | repartition group => exact single _
  | start options => exact single _
  | fanOut op targets =>
    refine List.foldlRecOn _ _ opened ?_
    intro s' holds target _
    exact started s' op target holds

section
variable {α : Type} {place : Nat}

/-- With an answer, whoever has called goes on; without one, it waits. -/
def follow (place : Nat) (call : Call) (fate : Fate) (resume : call.Answer → Activity α) :
    Scene × Option call.Answer → Scene × (Undertaking α ⊕ α)
  | (s, none) => (s, .inl ⟨call, fate, resume⟩)
  | (s, some answer) => (s.dropCues (.part place)).drive place (resume answer)

theorem drive_waiting (s : Scene) (place : Nat) (run : Run) (call : Call)
    (resume : call.Answer → Activity α) :
    s.drive place (.waiting run call resume) =
      follow place call ((s.see run).beginCall place call).2 resume
        (((s.see run).beginCall place call).1.answer? ((s.see run).beginCall place call).2 call) := by
  rw [Scene.drive]
  dsimp only
  split
  · rename_i pending
    rw [pending, follow]
  · rename_i answered
    rw [answered, follow]

theorem goOn_eq (s : Scene) (place : Nat) (u : Undertaking α) :
    s.goOn place u = follow place u.call u.fate u.resume (s.answer? u.fate u.call) := by
  rw [Scene.goOn]
  split
  · rename_i pending
    rw [pending, follow]
  · rename_i answered
    rw [answered, follow]

/-- Whether what holds of a scene is kept by all that a part does for the calls of an activity. -/
structure KeptByCalls (place : Nat) (P : Scene → Prop) : Prop where
  seen : ∀ s run, P s → P (s.see run)
  begun : ∀ s call, P s → P (s.beginCall place call).1
  looked : ∀ s fate call, P s → P (s.answer? fate call).1
  dropped : ∀ s, P s → P (s.dropCues (.part place))

theorem KeptByCalls.follow (kept : KeptByCalls place P) {call : Call} {fate : Fate}
    {resume : call.Answer → Activity α} {now : Scene × Option call.Answer} (holds : P now.1)
    (onward : ∀ answer s, P s → P (s.drive place (resume answer)).1) :
    P (Scene.follow place call fate resume now).1 := by
  obtain ⟨s, _ | answer⟩ := now
  · exact holds
  · exact onward answer _ (kept.dropped s holds)

theorem KeptByCalls.drive (kept : KeptByCalls place P) (holds : P s) (a : Activity α) :
    P (s.drive place a).1 := by
  induction a generalizing s with
  | done run x => exact kept.seen s run holds
  | waiting run call resume ih =>
    have begun := kept.begun _ call (kept.seen s run holds)
    have looked := kept.looked _ ((s.see run).beginCall place call).2 call begun
    rw [drive_waiting]
    exact kept.follow looked fun answer s' holds => ih answer holds

theorem KeptByCalls.goOn (kept : KeptByCalls place P) (holds : P s) (u : Undertaking α) :
    P (s.goOn place u).1 := by
  rw [goOn_eq]
  exact kept.follow (kept.looked s u.fate u.call holds) fun answer s' holds => kept.drive holds _

end

/-! ### Turns and rounds -/

theorem workRound_induction (holds : P s)
    (turn : ∀ s next rest, s.called = next :: rest → P s → P ({ s with called := rest }.work next))
    (turns : Nat) : P (s.workRound turns) := by
  induction turns generalizing s with
  | zero => exact holds
  | succ turns ih =>
    unfold workRound
    split
    · exact holds
    · rename_i next rest called
      exact ih (turn s next rest called holds)

theorem settle_induction (left : P s.leave)
    (worked : ∀ s, P s → P (s.workRound turnsInRound))
    (passed : ∀ s time, P s → P (s.advance time)) : P s.settle := by
  have settled (rounds : Nat) (s : Scene) (holds : P s) : P (settleRounds rounds s) := by
    induction rounds generalizing s with
    | zero => exact holds
    | succ rounds ih =>
      unfold settleRounds
      dsimp only
      split
      · exact ih _ (worked s holds)
      · split
        · exact worked s holds
        · exact ih _ (passed _ _ (worked s holds))
  exact settled roundsAhead s.leave left

end Scene
end FlowRuntime.Rehearsal
