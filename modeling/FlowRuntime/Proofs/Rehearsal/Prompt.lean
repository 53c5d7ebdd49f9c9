import FlowRuntime.Proofs.Rehearsal.Staged

/-!
When nothing is planned to go wrong, nobody is kept waiting. Whoever has mail is called
on and has a turn to come, and when an answer has come, the part that waits for it is
stirred. So as long as a fan-out is not over, somebody goes on before any time passes.
-/
namespace FlowRuntime.Rehearsal

/-- Whoever has mail is called on, and has a turn to come. -/
structure Roused (s : Scene) : Prop where
  mailed : ∀ (handle : Handle) r, s.world.residents[handle]? = some r → r.mail ≠ [] → r.isCalled
  called : ∀ (handle : Handle) r, s.world.residents[handle]? = some r → r.isCalled →
    .resident handle ∈ s.called

def Errand.IsQuiet : Errand → Prop
  | .sent none | .ended _ => True
  | _ => False

def Quiet (s : Scene) : Prop := ∀ (i : Nat) e, s.errands[i]? = some e → e.IsQuiet

/-- If an answer has come to an errand, this part will see to it. -/
def Keen (place : Nat) (s : Scene) : Prop :=
  ∀ (i : Nat) e, s.errands[i]? = some e →
    e.IsQuiet ∨ (∃ outcome, e = .sent (some outcome)) ∧ place ∈ s.stirred

/-- Nobody has had a turn, though more may have been woken. -/
structure Attentive (s s' : Scene) : Prop where
  residents : s'.world.residents = s.world.residents
  turn : s'.turn = s.turn
  called : ∀ p ∈ s.called, p ∈ s'.called
  stirred : ∀ place ∈ s.stirred, place ∈ s'.stirred

structure Livelier (s s' : Scene) : Prop extends Attentive s s' where
  errands : s'.errands = s.errands

theorem Attentive.trans {s s' s'' : Scene} (first : Attentive s s') (second : Attentive s' s'') :
    Attentive s s'' where
  residents := second.residents.trans first.residents
  turn := second.turn.trans first.turn
  called p mem := second.called p (first.called p mem)
  stirred place mem := second.stirred place (first.stirred place mem)

namespace Livelier
variable {s s' s'' : Scene}

theorem refl (s : Scene) : Livelier s s := ⟨⟨rfl, rfl, fun _ => id, fun _ => id⟩, rfl⟩

theorem trans (first : Livelier s s') (second : Livelier s' s'') : Livelier s s'' :=
  ⟨first.toAttentive.trans second.toAttentive, second.errands.trans first.errands⟩

theorem foldl {ι : Type} {f : Scene → ι → Scene} (each : ∀ s i, Livelier s (f s i)) (s : Scene)
    (items : List ι) : Livelier s (items.foldl f s) := by
  refine List.foldlRecOn items f (refl s) ?_
  intro s' kept i _
  exact kept.trans (each s' i)

theorem wake (s : Scene) (p : Player) : Livelier s (s.wake p) := by
  apply Scene.wake_induction (refl s)
  · intro place
    exact ⟨⟨rfl, rfl, fun _ => id, fun _ => List.mem_append_left _⟩, rfl⟩
  · exact ⟨⟨rfl, rfl, fun _ => List.mem_append_left _, fun _ => id⟩, rfl⟩

theorem wakeAll (s : Scene) (players : List Player) : Livelier s (s.wakeAll players) :=
  foldl wake s players

theorem cue (s : Scene) (time : Nat) (p : Player) : Livelier s (s.cue time p) := by
  unfold Scene.cue
  split
  · exact refl s
  · exact ⟨⟨rfl, rfl, fun _ => id, fun _ => id⟩, rfl⟩

theorem cueAt (s : Scene) (time : Option Nat) (place : Nat) : Livelier s (s.cueAt time place) := by
  apply Scene.cueAt_induction (refl s)
  intro time _
  exact cue s time _

theorem see (s : Scene) (run : Run) : Livelier s (s.see run) := by
  apply Scene.see_induction (P := Livelier s)
  · exact ⟨⟨rfl, rfl, fun _ => id, fun _ => id⟩, rfl⟩
  · intro s' t livelier
    exact livelier.trans ⟨⟨rfl, rfl, fun _ => id, fun _ => id⟩, rfl⟩
  · intro s' players livelier
    exact livelier.trans (wakeAll s' players)

theorem listenerWorks (s : Scene) (i : Nat) : Livelier s (s.listenerWorks i) := by
  have worked : Livelier s { s with audience := s.audience.work s.now i } :=
    ⟨⟨rfl, rfl, fun _ => id, fun _ => id⟩, rfl⟩
  apply Scene.listenerWorks_induction (P := Livelier s) worked
  · intro s' places livelier
    exact livelier.trans (wakeAll s' _)
  · intro s' time livelier
    exact livelier.trans (cue s' time _)

end Livelier

section
variable {s s' : Scene} {place : Nat}

theorem Roused.attentive (roused : Roused s) (attentive : Attentive s s') : Roused s' where
  mailed := attentive.residents ▸ roused.mailed
  called := by
    intro handle r found called
    rw [attentive.residents] at found
    exact attentive.called _ (roused.called handle r found called)

theorem Quiet.keen (quiet : Quiet s) (place : Nat) : Keen place s :=
  fun i e stands => .inl (quiet i e stands)

theorem Keen.livelier (keen : Keen place s) (livelier : Livelier s s') : Keen place s' := by
  intro i e stands
  rw [livelier.errands] at stands
  exact (keen i e stands).imp_right (·.imp_right (livelier.stirred place))

/-! ### Sending -/

theorem wake_called (s : Scene) (handle : Handle) :
    .resident handle ∈ (s.wake (.resident handle)).called := by
  simp [Scene.wake]

theorem post_cases {w : World} {handle h : Handle} {l : Letter} {r' : Resident}
    (found : (w.post handle l).residents[h]? = some r') :
    (h = handle ∧ ∃ r, w.residents[h]? = some r ∧
        r' = { r with mail := r.mail ++ [l], isCalled := true }) ∨
      (h ≠ handle ∧ w.residents[h]? = some r') := by
  simp only [World.post, Array.getElem?_modify] at found
  split at found
  · rename_i here
    obtain ⟨r, before, rfl⟩ := Option.map_eq_some_iff.mp found
    exact .inl ⟨here.symm, r, before, rfl⟩
  · rename_i other
    exact .inr ⟨Ne.symm other, found⟩

theorem Roused.send (roused : Roused s) (i : Nat) (handle : Handle) (op : InstanceOp) :
    Roused (s.send i handle op) := by
  unfold Scene.send
  split
  · exact ⟨roused.mailed, roused.called⟩
  · dsimp only
    have mailed (h : Handle) (r' : Resident)
        (found : (s.world.post handle ⟨s.round, i, op⟩).residents[h]? = some r')
        (mail : r'.mail ≠ []) : r'.isCalled := by
      rcases post_cases found with ⟨_, _, _, rfl⟩ | ⟨_, before⟩
      · rfl
      · exact roused.mailed h r' before mail
    split
    · rename_i already
      refine ⟨mailed, fun h r' found called => ?_⟩
      rcases post_cases found with ⟨rfl, r, before, _⟩ | ⟨_, before⟩
      · simp only [World.isCalled, before, Option.any_some] at already
        exact roused.called h r before already
      · exact roused.called h r' before called
    · refine ⟨mailed, fun h r' found called => ?_⟩
      rcases post_cases found with ⟨rfl, _⟩ | ⟨_, before⟩
      · exact wake_called _ h
      · exact (Livelier.wake _ _).called _ (roused.called h r' before called)

theorem send_errands (s : Scene) (i : Nat) (handle : Handle) (op : InstanceOp) :
    (s.send i handle op).turn = s.turn ∧ ∀ (j : Nat) e, (s.send i handle op).errands[j]? = some e →
      e.IsQuiet ∨ (j ≠ i ∧ s.errands[j]? = some e) := by
  have set {e' : Errand} (quiet : e'.IsQuiet) (j : Nat) (e : Errand)
      (stands : (s.errands.setIfInBounds i e')[j]? = some e) :
      e.IsQuiet ∨ (j ≠ i ∧ s.errands[j]? = some e) := by
    rcases getElem?_set_cases stands with ⟨_, rfl, _⟩ | elsewhere
    · exact .inl quiet
    · exact .inr elsewhere
  unfold Scene.send
  split
  · exact ⟨rfl, set trivial⟩
  · dsimp only
    split
    · exact ⟨rfl, set trivial⟩
    · exact ⟨rfl, set trivial⟩

/-- Nobody is planned to fail, and nobody is to be given up now. -/
structure Calm (s : Scene) : Prop where
  faultless : s.world.faults = []
  patient : s.limit ≠ some 0
  early : s.isUp s.givenUpAt = false

theorem Calm.of_framed (still : Calm s) (framed : Framed s s') : Calm s' where
  faultless := framed.faults.trans still.faultless
  patient := framed.limit ▸ still.patient
  early := by
    have early := still.early
    simp only [Scene.isUp, Scene.givenUpAt] at early ⊢
    rw [framed.now, framed.limit, framed.since]
    exact early

theorem InFlight.calm {calm : Prop} {w : World} {op : InstanceOp} {targets : List (StageKey × Handle)}
    (flight : InFlight calm w op targets s) (still : calm) : Calm s where
  faultless := flight.fit.faultless still
  patient := flight.fit.patient still
  early := by
    by_contra up
    exact flight.not_late (by simpa using up) still

theorem framed_send (s : Scene) (i : Nat) (handle : Handle) (op : InstanceOp) :
    Framed s (s.send i handle op) := by
  unfold Scene.send
  split
  · exact ⟨rfl, rfl, rfl, rfl, rfl, rfl⟩
  · dsimp only
    split <;> exact ⟨rfl, rfl, rfl, rfl, rfl, rfl⟩

theorem attendErrand_calm (still : Calm s) (roused : Roused s) (op : InstanceOp) (i : Nat)
    (handle : Handle)
    (due : ∀ time failure, s.errands[i]? = some (.delayed time failure) →
      s.isUp time = true ∧ failure = none) :
    Framed s (s.attendErrand op i handle) ∧ Roused (s.attendErrand op i handle) ∧
      (s.attendErrand op i handle).turn = s.turn ∧
      ∀ (j : Nat) e, (s.attendErrand op i handle).errands[j]? = some e →
        e.IsQuiet ∨ (j ≠ i ∧ s.errands[j]? = some e) := by
  have settled (s₁ : Scene) (framed : Framed s s₁) :
      (if s₁.isOut i && s₁.isUp s₁.givenUpAt then
        s₁.setErrand i (.ended (.error (.timedOut (s₁.limit.getD 0)))) else s₁) = s₁ := by
    simp [(still.of_framed framed).early]
  have refl : Framed s s := ⟨rfl, rfl, rfl, rfl, rfl, rfl⟩
  have unchanged (quiet : ∀ e, s.errands[i]? = some e → e.IsQuiet) (j : Nat) (e : Errand)
      (here : s.errands[j]? = some e) : e.IsQuiet ∨ (j ≠ i ∧ s.errands[j]? = some e) := by
    by_cases same : j = i
    · exact .inl (quiet e (same ▸ here))
    · exact .inr ⟨same, here⟩
  unfold Scene.attendErrand
  cases stands : s.errands[i]? with
  | none =>
    dsimp only
    rw [settled s refl]
    exact ⟨refl, roused, rfl, unchanged (by simp [stands])⟩
  | some e =>
    cases e with
    | delayed time failure =>
      obtain ⟨up, rfl⟩ := due time failure stands
      have framed := framed_send s i handle op
      simp only [up, Bool.not_true, Bool.false_eq_true, if_false]
      rw [settled _ framed]
      obtain ⟨turn, errands⟩ := send_errands s i handle op
      exact ⟨framed, roused.send i handle op, turn, errands⟩
    | ended outcome =>
      dsimp only
      rw [settled s refl]
      exact ⟨refl, roused, rfl, unchanged (by simp [stands, Errand.IsQuiet])⟩
    | sent answer =>
      cases answer with
      | none =>
        dsimp only
        rw [settled s refl]
        exact ⟨refl, roused, rfl, unchanged (by simp [stands, Errand.IsQuiet])⟩
      | some outcome =>
        have framed : Framed s (s.setErrand i (.ended outcome)) := ⟨rfl, rfl, rfl, rfl, rfl, rfl⟩
        dsimp only
        rw [settled _ framed]
        refine ⟨framed, ⟨roused.mailed, roused.called⟩, rfl, fun j e here => ?_⟩
        rcases getElem?_set_cases here with ⟨_, rfl, _⟩ | elsewhere
        · exact .inl trivial
        · exact .inr elsewhere

theorem attendErrands_calm (still : Calm s) (roused : Roused s) (op : InstanceOp)
    (items : List ((StageKey × Handle) × Nat))
    (left : ∀ (j : Nat) e, s.errands[j]? = some e →
      e.IsQuiet ∨ (∃ outcome, e = .sent (some outcome)) ∧ ∃ item ∈ items, item.2 = j) :
    Calm (items.foldl (fun s e => s.attendErrand op e.2 e.1.2) s) ∧
      Roused (items.foldl (fun s e => s.attendErrand op e.2 e.1.2) s) ∧
      Quiet (items.foldl (fun s e => s.attendErrand op e.2 e.1.2) s) ∧
      (items.foldl (fun s e => s.attendErrand op e.2 e.1.2) s).turn = s.turn := by
  induction items generalizing s with
  | nil =>
    refine ⟨still, roused, fun j e stands => ?_, rfl⟩
    rcases left j e stands with quiet | ⟨_, _, mem, _⟩
    · exact quiet
    · cases mem
  | cons head rest ih =>
    obtain ⟨framed, roused', turn, errands⟩ := attendErrand_calm still roused op head.2 head.1.2 (by
      intro time failure stands
      rcases left head.2 _ stands with quiet | ⟨⟨_, other⟩, _⟩
      · exact quiet.elim
      · cases other)
    obtain ⟨still'', roused'', quiet, turn'⟩ := ih (still.of_framed framed) roused' (by
      intro j e stands
      rcases errands j e stands with quiet | ⟨apart, before⟩
      · exact .inl quiet
      · rcases left j e before with quiet | ⟨answered, item, mem, here⟩
        · exact .inl quiet
        · refine .inr ⟨answered, item, ?_, here⟩
          rcases List.mem_cons.mp mem with rfl | later
          · exact absurd here.symm apart
          · exact later)
    exact ⟨still'', roused'', quiet, turn'.trans turn⟩

namespace Scene

def dueOf (s : Scene) (call : LoggedCall) : Option Nat :=
  (s.world.meet call).2.delay.map (s.now + waitFor ·)

def enlist (s : Scene) (call : LoggedCall) : Scene :=
  { s with
    world := (s.world.meet call).1
    errands := s.errands.push (.delayed (s.dueOf call) (s.world.meet call).2.failure) }

theorem startErrand_eq (s : Scene) (place : Nat) (op : InstanceOp) (t : StageKey × Handle) :
    s.startErrand place op t =
      let s₁ := (s.enlist (.request op t.1)).attendErrand op s.errands.size t.2
      if s₁.isOut s.errands.size then
        (s₁.cueAt (s.dueOf (.request op t.1)) place).cueAt s₁.givenUpAt place
      else s₁ := rfl

end Scene

theorem enlist_calm (still : Calm s) (roused : Roused s) (call : LoggedCall) :
    Calm (s.enlist call) ∧ Roused (s.enlist call) ∧ ∀ (j : Nat) e, (s.enlist call).errands[j]? = some e →
      (j = s.errands.size ∧ e = .delayed (some s.now) none) ∨
      (j ≠ s.errands.size ∧ s.errands[j]? = some e) := by
  have enlisted : s.enlist call = { s with
      world := { s.world with faults := [], calls := call :: s.world.calls }
      errands := s.errands.push (.delayed (some (s.now + waitFor 0)) none) } := by
    rw [Scene.enlist, Scene.dueOf, World.meet_faultless still.faultless]
    rfl
  rw [enlisted]
  refine ⟨⟨rfl, still.patient, still.early⟩, ⟨roused.mailed, roused.called⟩, ?_⟩
  intro j e stands
  rcases getElem?_push_cases stands with ⟨last, rfl⟩ | elsewhere
  · exact .inl ⟨last, rfl⟩
  · exact .inr elsewhere

theorem startErrand_calm (still : Calm s) (roused : Roused s) (quiet : Quiet s) (place : Nat)
    (op : InstanceOp) (target : StageKey × Handle) :
    Calm (s.startErrand place op target) ∧ Roused (s.startErrand place op target) ∧
      Quiet (s.startErrand place op target) ∧ (s.startErrand place op target).turn = s.turn := by
  obtain ⟨still₁, roused₁, pushed⟩ := enlist_calm still roused (.request op target.1)
  rw [Scene.startErrand_eq]
  dsimp only
  obtain ⟨framed, roused', turn, errands⟩ := attendErrand_calm still₁ roused₁ op s.errands.size
    target.2 (by
      intro time failure stands
      rcases pushed _ _ stands with ⟨_, same⟩ | ⟨apart, _⟩
      · cases same
        exact ⟨by simp [Scene.isUp, Scene.enlist], rfl⟩
      · exact absurd rfl apart)
  have quiet' : Quiet ((s.enlist (.request op target.1)).attendErrand op s.errands.size target.2) := by
    intro j e stands
    rcases errands j e stands with quiet' | ⟨apart, before⟩
    · exact quiet'
    · rcases pushed j e before with ⟨here, _⟩ | ⟨_, before⟩
      · exact absurd here apart
      · exact quiet j e before
  have still' := still₁.of_framed framed
  generalize (s.enlist (.request op target.1)).attendErrand op s.errands.size target.2 = s₂
    at still' roused' quiet' turn ⊢
  split
  · have cued (time time' : Option Nat) : Livelier s₂ ((s₂.cueAt time place).cueAt time' place) :=
      (Livelier.cueAt _ _ _).trans (.cueAt _ _ _)
    have reordered (time time' : Option Nat) :
        Reordered s₂ ((s₂.cueAt time place).cueAt time' place) :=
      (Reordered.cueAt _ _ _).trans (.cueAt _ _ _)
    refine ⟨still'.of_framed (Unmoved.ofReordered (reordered _ _)).toFramed,
      roused'.attentive (cued _ _).toAttentive, ?_, (cued _ _).turn.trans turn⟩
    intro j e stands
    rw [(cued _ _).errands] at stands
    exact quiet' j e stands
  · exact ⟨still', roused', quiet', turn⟩

/-! ### Driving -/

/-- Nothing is planned to go wrong, nobody is given up at once, and the turn is with this part. -/
structure Ready (place : Nat) (s : Scene) : Prop where
  faultless : s.world.faults = []
  patient : s.limit ≠ some 0
  roused : Roused s
  turn : s.turn = some place

theorem Ready.attentive (ready : Ready place s) (attentive : Attentive s s')
    (framed : Framed s s') : Ready place s' where
  faultless := framed.faults.trans ready.faultless
  patient := framed.limit ▸ ready.patient
  roused := ready.roused.attentive attentive
  turn := attentive.turn.trans ready.turn

theorem early_of_patient (patient : s.limit ≠ some 0) (prompt : s.now = s.since) :
    s.isUp s.givenUpAt = false := by
  cases limit : s.limit with
  | none => simp [Scene.isUp, Scene.givenUpAt, limit]
  | some l =>
    have positive : l ≠ 0 := by
      rintro rfl
      exact patient limit
    simp only [Scene.isUp, Scene.givenUpAt, limit, Option.map_some, Option.any_some,
      decide_eq_false_iff_not, prompt, waitFor, longestWait]
    omega

theorem single?_calm {α : Type} (ready : Ready place s) (call : LoggedCall)
    (go : World → World × Except Failure α) :
    (s.beginSingle place call).1.single? (s.beginSingle place call).2 go =
      ({ s with
        world := (go { s.world with faults := [], calls := call :: s.world.calls }).1 },
      some (go { s.world with faults := [], calls := call :: s.world.calls }).2) := by
  simp [Scene.beginSingle, World.meet_faultless ready.faultless, Fate.unharmed, waitFor, Scene.cueAt,
    Scene.single?, Scene.isUp]

theorem ready_start (ready : Ready place s) (options : InstanceOptions) (calls : List LoggedCall) :
    Ready place (Scene.greet
      { s with world := (World.start { s.world with faults := [], calls := calls } options).1 }
      s.world.residents.size) := by
  unfold World.start
  split
  · have same : Ready place
        { s with world := { s.world with faults := [], calls := calls } } :=
      ⟨rfl, ready.patient, ⟨ready.roused.mailed, ready.roused.called⟩, ready.turn⟩
    have dark : ¬ s.world.residents.size < s.world.residents.size := Nat.lt_irrefl _
    simpa [Scene.greet, dark] using same
  · rename_i i started
    have placed (h : Handle) (r : Resident)
        (found : (s.world.residents.push ⟨i, [], true, false⟩)[h]? = some r) :
        (h = s.world.residents.size ∧ r.mail = []) ∨ s.world.residents[h]? = some r := by
      rcases getElem?_push_cases found with ⟨last, rfl⟩ | ⟨_, before⟩
      · exact .inl ⟨last, rfl⟩
      · exact .inr before
    simp only [Scene.greet, Array.size_push, Nat.lt_succ_self, if_true]
    refine ⟨rfl, ready.patient, ⟨?_, ?_⟩, ready.turn⟩
    · intro h r found mail
      rcases placed h r found with ⟨_, empty⟩ | before
      · exact absurd empty mail
      · exact ready.roused.mailed h r before mail
    · intro h r found called
      rcases placed h r found with ⟨rfl, _⟩ | before
      · exact wake_called _ _
      · exact (Livelier.wake _ _).called _ (ready.roused.called h r before called)

theorem startErrands_calm (still : Calm s) (roused : Roused s) (quiet : Quiet s) (place : Nat)
    (op : InstanceOp) (targets : List (StageKey × Handle)) :
    Calm (targets.foldl (fun s target => s.startErrand place op target) s) ∧
      Roused (targets.foldl (fun s target => s.startErrand place op target) s) ∧
      Quiet (targets.foldl (fun s target => s.startErrand place op target) s) ∧
      (targets.foldl (fun s target => s.startErrand place op target) s).turn = s.turn := by
  induction targets generalizing s with
  | nil => exact ⟨still, roused, quiet, rfl⟩
  | cons head rest ih =>
    obtain ⟨still', roused', quiet', turn⟩ := startErrand_calm still roused quiet place op head
    obtain ⟨still'', roused'', quiet'', turn'⟩ := ih still' roused' quiet'
    exact ⟨still'', roused'', quiet'', turn'.trans turn⟩

theorem ready_attended (still : Calm s) (roused : Roused s) (turn : s.turn = some place)
    (op : InstanceOp) {targets : List (StageKey × Handle)} (count : s.errands.size = targets.length)
    (keen : ∀ (j : Nat) e, s.errands[j]? = some e → e.IsQuiet ∨ ∃ outcome, e = .sent (some outcome)) :
    Ready place (s.attendErrands op targets) ∧ Quiet (s.attendErrands op targets) := by
  obtain ⟨still', roused', quiet, turn'⟩ := attendErrands_calm still roused op targets.zipIdx (by
    intro j e stands
    rcases keen j e stands with quiet | answered
    · exact .inl quiet
    · have within := (Array.getElem?_eq_some_iff.mp stands).1
      rw [count] at within
      exact .inr ⟨answered, (targets[j], j), List.mem_zipIdx_iff_getElem?.mpr (by simp), rfl⟩)
  exact ⟨⟨still'.faultless, still'.patient, roused', turn'.trans turn⟩, quiet⟩

theorem ready_call (ready : Ready place s) (call : Call) :
    Ready place ((s.beginCall place call).1.answer? (s.beginCall place call).2 call).1 ∧
      (((s.beginCall place call).1.answer? (s.beginCall place call).2 call).2 = none →
        (∃ op targets, call = .fanOut op targets) ∧
        Quiet ((s.beginCall place call).1.answer? (s.beginCall place call).2 call).1) := by
  cases call with
  | bind groups =>
    simp only [Scene.answer?, Scene.beginCall, single?_calm ready]
    exact ⟨⟨rfl, ready.patient, ⟨ready.roused.mailed, ready.roused.called⟩, ready.turn⟩, by simp⟩
  | repartition group =>
    simp only [Scene.answer?, Scene.beginCall, single?_calm ready]
    exact ⟨⟨rfl, ready.patient, ⟨ready.roused.mailed, ready.roused.called⟩, ready.turn⟩, by simp⟩
  | start options =>
    have size : (s.beginSingle place (.start options)).1.world.residents.size =
        s.world.residents.size :=
      congrArg Array.size (Unmoved.ofReordered
        (.cueAt { s with world := (s.world.meet (.start options)).1 } _ place)).residents
    simp only [Scene.answer?, Scene.beginCall, single?_calm ready, size]
    exact ⟨ready_start ready options _, by simp⟩
  | fanOut op targets =>
    have opened : Calm { s with round := s.round + 1, since := s.now, errands := #[] } :=
      ⟨ready.faultless, ready.patient, early_of_patient ready.patient rfl⟩
    have quiet : Quiet { s with round := s.round + 1, since := s.now, errands := #[] } := by
      intro i e stands
      simp at stands
    obtain ⟨still, roused, quiet, turn⟩ := startErrands_calm opened
      ⟨ready.roused.mailed, ready.roused.called⟩ quiet place op targets
    have count := (Made.startErrands_size
      { s with round := s.round + 1, since := s.now, errands := #[] } place op targets).trans
      (Nat.zero_add _)
    obtain ⟨ready', quiet'⟩ := ready_attended still roused (turn.trans ready.turn) op count
      fun j e stands => .inl (quiet j e stands)
    exact ⟨ready', fun _ => ⟨⟨op, targets, rfl⟩, quiet'⟩⟩

/-! ### Turns -/

theorem noteAnswer_attentive (s : Scene) (l : Letter) (outcome : Outcome) :
    Attentive s (s.noteAnswer l outcome) := by
  apply Scene.noteAnswer_induction (P := Attentive s) (Livelier.refl s).toAttentive
    ⟨rfl, rfl, fun _ => id, fun _ => id⟩
  intro s' players attentive
  exact attentive.trans (Livelier.wakeAll s' players).toAttentive

theorem noteAnswers_attentive (s : Scene) (answers : List (Letter × Outcome)) :
    Attentive s (answers.foldl (fun s a => s.noteAnswer a.1 a.2) s) := by
  apply Scene.noteAnswers_induction (P := Attentive s) (Livelier.refl s).toAttentive
  intro s' l outcome attentive
  exact attentive.trans (noteAnswer_attentive s' l outcome)

theorem read_cases {w : World} {handle h : Handle} {r' : Resident}
    (found : (w.read handle).1.residents[h]? = some r') :
    (h = handle ∧ r'.mail = [] ∧ r'.isCalled = false) ∨
    (h ≠ handle ∧ w.residents[h]? = some r') := by
  unfold World.read at found
  cases there : w.residents[handle]? with
  | none =>
    rw [there] at found
    refine .inr ⟨?_, found⟩
    rintro rfl
    rw [there] at found
    cases found
  | some r =>
    simp only [there] at found
    rcases getElem?_set_cases found with ⟨same, rfl, _⟩ | elsewhere
    · exact .inl ⟨same, rfl, rfl⟩
    · exact .inr elsewhere

theorem Roused.work (roused : Roused s) {next : Player} {rest : List Player}
    (called : s.called = next :: rest) : Roused ({ s with called := rest }.work next) := by
  have others (h : Handle) (r : Resident) (other : next ≠ .resident h)
      (found : s.world.residents[h]? = some r) (isCalled : r.isCalled) : .resident h ∈ rest := by
    have mem := roused.called h r found isCalled
    rw [called] at mem
    exact (List.mem_cons.mp mem).resolve_left (Ne.symm other)
  have kept (other : ∀ h, next ≠ .resident h) : Roused { s with called := rest } :=
    ⟨roused.mailed, fun h r => others h r (other h)⟩
  cases next with
  | part place => exact kept nofun
  | listener i => exact (kept nofun).attentive (Livelier.listenerWorks _ i).toAttentive
  | resident handle =>
    refine Roused.attentive (s := { s with called := rest, world := (s.world.read handle).1 }) ?_
      (noteAnswers_attentive _ _)
    constructor
    · intro h r' found mail
      rcases read_cases found with ⟨_, empty, _⟩ | ⟨_, before⟩
      · exact absurd empty mail
      · exact roused.mailed h r' before mail
    · intro h r' found isCalled
      rcases read_cases found with ⟨_, _, idle⟩ | ⟨other, before⟩
      · rw [idle] at isCalled
        cases isCalled
      · refine others h r' ?_ before isCalled
        rintro ⟨⟩
        exact other rfl

theorem work_turn (s : Scene) (p : Player) : (s.work p).turn = s.turn := by
  cases p with
  | part place => rfl
  | listener i => exact (Livelier.listenerWorks s i).turn
  | resident handle =>
    exact (noteAnswers_attentive { s with world := (s.world.read handle).1 } _).turn

theorem workRound_turn (s : Scene) (turns : Nat) : (s.workRound turns).turn = s.turn := by
  apply Scene.workRound_induction (P := fun s' => s'.turn = s.turn) rfl
  intro s' next rest _ same
  exact (work_turn _ next).trans same

theorem Roused.workRound (roused : Roused s) (turns : Nat) : Roused (s.workRound turns) := by
  apply Scene.workRound_induction (P := Roused) roused
  intro s' next rest called roused
  exact roused.work called

/-! ### Fan-outs that are waited for -/

/-- An errand is not over yet, and if one can go on, this part will see to it. -/
structure Expectant (place : Nat) (s : Scene) : Prop where
  turn : s.turn = some place
  keen : Keen place s
  out : ∃ i, s.isOut i = true

theorem Expectant.livelier (expectant : Expectant place s) (livelier : Livelier s s') :
    Expectant place s' where
  turn := livelier.turn.trans expectant.turn
  keen := expectant.keen.livelier livelier
  out := by
    obtain ⟨i, out⟩ := expectant.out
    exact ⟨i, by rwa [Scene.isOut, livelier.errands]⟩

theorem Expectant.noteAnswer (expectant : Expectant place s) (l : Letter) (outcome : Outcome) :
    Expectant place (s.noteAnswer l outcome) := by
  have turn := (noteAnswer_attentive s l outcome).turn.trans expectant.turn
  unfold Scene.noteAnswer at *
  split at turn
  · rename_i old
    rwa [if_pos old]
  · rename_i current
    rw [if_neg current]
    split
    · rename_i stands
      have within := (Array.getElem?_eq_some_iff.mp stands).1
      have looked (j : Nat) : ((s.setErrand l.place (.sent (some outcome))).wakeAll
          (s.turn.toList.map .part)).errands[j]? =
          if l.place = j then some (.sent (some outcome)) else s.errands[j]? := by
        rw [(Livelier.wakeAll _ _).errands]
        simp only [Scene.setErrand, Array.getElem?_setIfInBounds, if_pos within]
      have stirred : place ∈ ((s.setErrand l.place (.sent (some outcome))).wakeAll
          (s.turn.toList.map .part)).stirred := by
        rw [expectant.turn]
        simp only [Option.toList_some, List.map_cons, List.map_nil, Scene.wakeAll,
          List.foldl_cons, List.foldl_nil, Scene.wake]
        split
        · assumption
        · simp
      refine ⟨(Livelier.wakeAll _ _).turn.trans expectant.turn, ?_, ?_⟩
      · intro j e here
        rw [looked] at here
        split at here
        · cases here
          exact .inr ⟨⟨outcome, rfl⟩, stirred⟩
        · exact (expectant.keen j e here).imp_right fun answered => ⟨answered.1, stirred⟩
      · obtain ⟨i, out⟩ := expectant.out
        refine ⟨i, ?_⟩
        rw [Scene.isOut, looked]
        split
        · rfl
        · exact out
    · exact expectant

theorem Expectant.work (expectant : Expectant place s) (p : Player) : Expectant place (s.work p) := by
  cases p with
  | part place => exact expectant
  | listener i => exact expectant.livelier (.listenerWorks s i)
  | resident handle =>
    apply Scene.residentReads_induction (P := Expectant place)
      ⟨expectant.turn, expectant.keen, expectant.out⟩
    intro s' l outcome expectant
    exact expectant.noteAnswer l outcome

theorem Expectant.workRound (expectant : Expectant place s) (turns : Nat) :
    Expectant place (s.workRound turns) := by
  apply Scene.workRound_induction (P := Expectant place) expectant
  intro s' next rest _ expectant
  have taken : Expectant place { s' with called := rest } :=
    ⟨expectant.turn, expectant.keen, expectant.out⟩
  exact taken.work next

theorem InFlight.busy {calm : Prop} {w : World} {op : InstanceOp}
    {targets : List (StageKey × Handle)} (flight : InFlight calm w op targets s)
    (count : s.errands.size = targets.length) (roused : Roused s) (expectant : Expectant place s) :
    s.isBusy = true := by
  obtain ⟨i, out⟩ := expectant.out
  rw [Scene.isOut, Option.any_eq_true] at out
  obtain ⟨e, stands, unsettled⟩ := out
  have within := (Array.getElem?_eq_some_iff.mp stands).1
  rw [count] at within
  obtain ⟨r₀, known, _⟩ := flight.knows.there targets[i] (List.getElem_mem within)
  obtain ⟨r, found⟩ := flight.exists_resident known
  rcases expectant.keen i e stands with quiet | ⟨_, stirred⟩
  · cases e with
    | delayed time failure => exact quiet.elim
    | ended outcome => cases unsettled
    | sent answer =>
      cases answer with
      | some outcome => exact quiet.elim
      | none =>
        have posted := flight.begun i targets[i].1 targets[i].2 _ r₀ r (by simp) stands known found
        obtain ⟨older, mail, _⟩ := posted.mail
        have isCalled := roused.mailed _ r found (by simp [mail])
        have mem := roused.called _ r found isCalled
        cases called : s.called with
        | nil =>
          rw [called] at mem
          cases mem
        | cons head rest => simp [Scene.isBusy, called]
  · cases same : s.stirred with
    | nil =>
      rw [same] at stirred
      cases stirred
    | cons head rest => simp [Scene.isBusy, same]

theorem out_of_report {targets : List (StageKey × Handle)} (pending : s.report? targets = none) :
    ∃ i, s.isOut i = true := by
  by_contra settled
  simp only [not_exists, Bool.not_eq_true] at settled
  have all : ∀ e ∈ s.errands.toList, e.outcome?.isSome := by
    intro e mem
    obtain ⟨i, stands⟩ := Array.getElem?_of_mem (Array.mem_toList_iff.mp mem)
    have inside := settled i
    rw [Scene.isOut, stands, Option.any_some] at inside
    exact Option.isSome_iff_ne_none.mpr fun none => by simp [none] at inside
  have gathered : ∀ errands : List Errand, (∀ e ∈ errands, e.outcome?.isSome) →
      (errands.mapM Errand.outcome?).isSome := by
    intro errands all
    induction errands with
    | nil => rfl
    | cons head rest ih =>
      obtain ⟨first, others⟩ := List.forall_mem_cons.mp all
      obtain ⟨outcome, found⟩ := Option.isSome_iff_exists.mp first
      obtain ⟨outcomes, later⟩ := Option.isSome_iff_exists.mp (ih others)
      simp [List.mapM_cons, found, later]
  have known := gathered _ all
  rw [Scene.report?, Option.map_eq_none_iff] at pending
  rw [pending] at known
  cases known

end
end FlowRuntime.Rehearsal
