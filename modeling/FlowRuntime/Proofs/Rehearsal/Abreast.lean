import FlowRuntime.Proofs.Rehearsal.Tandem
import FlowRuntime.Proofs.Run.Courtesy

/-!
Calls in two scenes that are alike. Whoever asks only those who can be asked is answered the
same in both, at the same times, and waits for the same if there is no answer yet. We verify
this first for one errand, then for a fan-out, and then for what is done about a run up to
the next answer that is not there.
-/
namespace FlowRuntime.Rehearsal

namespace Scene

def pursue (s : Scene) (op : InstanceOp) (i : Nat) (handle : Handle) : Scene :=
  match s.errands[i]? with
  | some (.delayed time failure) =>
    if !s.isUp time then s
    else match failure with
      | some text => s.setErrand i (.ended (.error (.reported text)))
      | none => s.send i handle op
  | some (.sent (some outcome)) => s.setErrand i (.ended outcome)
  | _ => s

def giveUp (s : Scene) (i : Nat) : Scene :=
  if s.isOut i && s.isUp s.givenUpAt then
    s.setErrand i (.ended (.error (.timedOut (s.limit.getD 0))))
  else s

theorem attendErrand_eq (s : Scene) (op : InstanceOp) (i : Nat) (handle : Handle) :
    s.attendErrand op i handle = (s.pursue op i handle).giveUp i := rfl

end Scene

/-- An errand stands in both scenes the same, and nothing is to be done about it now. -/
structure Settled (i : Nat) (s n : Scene) : Prop where
  same : n.errands[i]? = s.errands[i]?
  taken : ∀ outcome, s.errands[i]? ≠ some (.sent (some outcome))
  early : ∀ time failure, s.errands[i]? = some (.delayed (some time) failure) → s.now < time
  given : ∀ time, s.isOut i = true → s.givenUpAt = some time → s.now < time

/-- No two targets are the same; whoever has been told to stop is not held; and whoever is held, or
has not been asked yet, can be asked. -/
structure Courteous (op : InstanceOp) (targets : List (StageKey × Handle)) (held : List Handle)
    (s : Scene) : Prop where
  apart : (targets.map (·.2)).Nodup
  leaving : op = .stop → ∀ t ∈ targets, t.2 ∉ held
  reaches : ∀ handle ∈ held, s.Reaches handle
  unsent : ∀ (i : Nat) t, targets[i]? = some t → s.Unsent i → s.Reaches t.2

section
variable {s s' n n' : Scene} {i : Nat} {op : InstanceOp} {handle : Handle} {place : Nat}
  {targets : List (StageKey × Handle)} {held : List Handle}

/-! ### One errand -/

theorem setErrand_self {e : Errand} (stands : s.errands[i]? = some e) : s.setErrand i e = s := by
  have same : s.errands.setIfInBounds i e = s.errands := by
    apply Array.ext_getElem?
    intro j
    rw [Array.getElem?_setIfInBounds]
    split
    · rename_i here
      subst here
      rw [if_pos (Array.getElem?_eq_some_iff.mp stands).1, stands]
    · rfl
  rw [Scene.setErrand, same]

theorem pursue_of_answered {e : Errand} {outcome : Outcome} (stands : s.errands[i]? = some e)
    (heard : e.heard = .ended outcome) : s.pursue op i handle = s.setErrand i (.ended outcome) := by
  unfold Scene.pursue
  rw [stands]
  cases e with
  | delayed time failure => cases heard
  | ended outcome' =>
    cases heard
    exact (setErrand_self stands).symm
  | sent answer =>
    cases answer with
    | none => cases heard
    | some outcome' =>
      cases heard
      rfl

/-- An errand has gone on if it could, the same in both scenes: it has no answer that is not taken yet,
and is not due. -/
structure Chased (i : Nat) (op : InstanceOp) (handle : Handle) (s n s' n' : Scene) : Prop where
  step : Pursued i op handle s n s' n'
  same : n'.errands[i]? = s'.errands[i]?
  taken : ∀ outcome, s'.errands[i]? ≠ some (.sent (some outcome))
  early : ∀ time failure, s'.errands[i]? = some (.delayed (some time) failure) → s.now < time

theorem chased_ended (tandem : Tandem s n) {e e' : Errand} (stands : s.errands[i]? = some e)
    (stands' : n.errands[i]? = some e') (op : InstanceOp) (handle : Handle) (outcome : Outcome) :
    Chased i op handle s n (s.setErrand i (.ended outcome)) (n.setErrand i (.ended outcome)) where
  step := .setErrand tandem op handle (by simp) (fun _ => ⟨outcome, rfl⟩) (by simp [Errand.outcome?])
  same := by rw [getElem?_setErrand_self stands, getElem?_setErrand_self stands']
  taken := by simp [getElem?_setErrand_self stands]
  early := by simp [getElem?_setErrand_self stands]

theorem chased_delayed (tandem : Tandem s n) {time : Option Nat} {failure : Option String}
    (stands : s.errands[i]? = some (.delayed time failure))
    (stands' : n.errands[i]? = some (.delayed time failure))
    (reached : s.Unsent i → s.Reaches handle) (op : InstanceOp) :
    Chased i op handle s n (s.pursue op i handle) (n.pursue op i handle) := by
  simp only [Scene.pursue, stands, stands', tandem.isUp]
  split
  · rename_i early
    refine ⟨.refl tandem i op handle, by rw [stands, stands'], by simp [stands], ?_⟩
    rw [stands]
    rintro time' failure' ⟨⟩
    simpa [Scene.isUp] using early
  · cases failure with
    | some text => exact chased_ended tandem stands stands' op handle _
    | none =>
      have unsent : s.Unsent i := by
        intro e here
        rw [stands] at here
        cases here
        exact ⟨time, none, rfl⟩
      obtain ⟨sent, same, taken⟩ := Pursued.send tandem stands (reached unsent) op
      refine ⟨sent, same.symm, taken, ?_⟩
      intro time' failure' here
      rcases (send_errands s i handle op).2 i _ here with quiet | ⟨apart, _⟩
      · exact quiet.elim
      · exact absurd rfl apart

theorem chased (tandem : Tandem s n) (reached : s.Unsent i → s.Reaches handle) (op : InstanceOp) :
    Chased i op handle s n (s.pursue op i handle) (n.pursue op i handle) := by
  cases stands : s.errands[i]? with
  | none =>
    have stands' := tandem.getElem?_none stands
    simp only [Scene.pursue, stands, stands']
    exact ⟨.refl tandem i op handle, by rw [stands, stands'], by simp [stands], by simp [stands]⟩
  | some e =>
    obtain ⟨e', stands', heard⟩ := tandem.getElem? stands
    by_cases answered : ∃ outcome, e.heard = .ended outcome
    · obtain ⟨outcome, here⟩ := answered
      rw [pursue_of_answered stands here, pursue_of_answered stands' (heard.trans here)]
      exact chased_ended tandem stands stands' op handle outcome
    · obtain rfl := Errand.eq_of_heard heard (by simpa using answered)
      cases e' with
      | ended outcome => exact absurd ⟨outcome, rfl⟩ answered
      | delayed time failure => exact chased_delayed tandem stands stands' reached op
      | sent answer =>
        cases answer with
        | some outcome => exact absurd ⟨outcome, rfl⟩ answered
        | none =>
          simp only [Scene.pursue, stands, stands']
          exact ⟨.refl tandem i op handle, by rw [stands, stands'], by simp [stands], by simp [stands]⟩

theorem Chased.giveUp (chased : Chased i op handle s n s' n') :
    Pursued i op handle s n (s'.giveUp i) (n'.giveUp i) ∧ Settled i (s'.giveUp i) (n'.giveUp i) := by
  obtain ⟨first, same, taken, early⟩ := chased
  have out : n'.isOut i = s'.isOut i := by rw [Scene.isOut, Scene.isOut, same]
  have limit : n'.limit = s'.limit := by
    obtain ⟨_, _, _, _, _, _, _, rfl⟩ := first.tandem.alike.frame
    rfl
  unfold Scene.giveUp
  rw [out, first.tandem.isUp, first.tandem.givenUpAt, limit]
  split
  · generalize Except.error (Failure.timedOut (s'.limit.getD 0)) = outcome
    have given := Pursued.setErrand first.tandem op handle (i := i) (e := .ended outcome) (by simp)
      (fun _ => ⟨_, rfl⟩) (by simp [Errand.outcome?])
    have stands : (s'.setErrand i (.ended outcome)).errands[i]? =
        s'.errands[i]?.map fun _ => .ended outcome := by
      rw [getElem?_setErrand, if_pos rfl]
    refine ⟨first.trans given, ?_, ?_, ?_, ?_⟩
    · rw [stands, getElem?_setErrand, if_pos rfl, same]
    · intro outcome' here
      rw [stands, Option.map_eq_some_iff] at here
      obtain ⟨_, _, other⟩ := here
      cases other
    · intro time failure here
      rw [stands, Option.map_eq_some_iff] at here
      obtain ⟨_, _, other⟩ := here
      cases other
    · intro time isOut
      rw [Scene.isOut, stands, Option.any_map] at isOut
      simp [Errand.outcome?] at isOut
  · rename_i spared
    refine ⟨first, same, taken, ?_, ?_⟩
    · rw [first.framed.now]
      exact early
    · intro time isOut due
      by_contra late
      apply spared
      rw [isOut, Bool.true_and, due]
      simpa [Scene.isUp] using late

theorem attended (tandem : Tandem s n) (reached : s.Unsent i → s.Reaches handle) (op : InstanceOp) :
    Pursued i op handle s n (s.attendErrand op i handle) (n.attendErrand op i handle) ∧
      Settled i (s.attendErrand op i handle) (n.attendErrand op i handle) :=
  (chased tandem reached op).giveUp

/-! ### A fan-out -/

theorem Pursued.fanDue (step : Pursued i op handle s n s' n') {time : Nat} (due : s'.FanDue time) :
    s.FanDue time := by
  have given : s'.givenUpAt = s.givenUpAt := by
    rw [Scene.givenUpAt, Scene.givenUpAt, step.framed.limit, step.framed.since]
  rcases due with ⟨j, failure, stands⟩ | ⟨⟨j, out⟩, at_limit⟩
  · left
    by_cases here : j = i
    · subst here
      exact ⟨j, failure, step.delayed _ _ stands⟩
    · exact ⟨j, failure, (step.others j here).1 ▸ stands⟩
  · right
    refine ⟨⟨j, ?_⟩, given ▸ at_limit⟩
    by_cases here : j = i
    · subst here
      exact step.out out
    · rwa [Scene.isOut, (step.others j here).1] at out

theorem Courteous.pursued {t : StageKey × Handle} (courteous : Courteous op targets held s)
    (listed : targets[i]? = some t) (step : Pursued i op t.2 s n s' n') :
    Courteous op targets held s' where
  apart := courteous.apart
  leaving := courteous.leaving
  reaches h mem := by
    refine step.reaches h (courteous.reaches h mem) ?_
    rintro rfl stop
    exact courteous.leaving stop t (List.mem_of_getElem? listed) mem
  unsent j t' listed' unsent := by
    by_cases here : j = i
    · subst here
      rw [listed] at listed'
      cases listed'
      obtain ⟨before, kept⟩ := step.unsent unsent
      exact kept t.2 (courteous.unsent j t listed before)
    · have before : s.Unsent j := by
        intro e stands
        exact unsent e ((step.others j here).1.trans stands)
      refine step.reaches t'.2 (courteous.unsent j t' listed' before) ?_
      intro same
      have within := (List.getElem?_eq_some_iff.mp listed).1
      refine absurd ((List.getElem?_inj (by simpa using within) courteous.apart).mp ?_) (Ne.symm here)
      simp [listed, listed', same]

/-- Whoever waits for something that comes of the fan-out is cued then. -/
def Cued (place : Nat) (s : Scene) : Prop :=
  ∀ time, s.FanDue time → s.now < time → ⟨time, .part place⟩ ∈ s.cues

/-- A fan-out is under way in both scenes, so many of its errands having been begun. -/
structure Fanned (op : InstanceOp) (targets : List (StageKey × Handle)) (held : List Handle)
    (place begun : Nat) (s n : Scene) : Prop where
  tandem : Tandem s n
  courteous : Courteous op targets held s
  cued : Cued place s
  size : s.errands.size = begun

theorem Fanned.attend {begun : Nat} {t : StageKey × Handle}
    (fanned : Fanned op targets held place begun s n) (listed : targets[i]? = some t) :
    Fanned op targets held place begun (s.attendErrand op i t.2) (n.attendErrand op i t.2) ∧
      Settled i (s.attendErrand op i t.2) (n.attendErrand op i t.2) ∧
      ∀ j : Nat, Settled j s n → Settled j (s.attendErrand op i t.2) (n.attendErrand op i t.2) := by
  obtain ⟨step, settled⟩ := attended fanned.tandem (fanned.courteous.unsent i t listed) op
  have spares : Spares (fun _ => True) (.part place) s (s.attendErrand op i t.2) := .attendErrand s op i t.2
  refine ⟨⟨step.tandem, fanned.courteous.pursued listed step, ?_, step.size.trans fanned.size⟩,
    settled, ?_⟩
  · intro time due later
    rw [spares.now] at later
    exact spares.cues _ (fanned.cued time (step.fanDue due) later) trivial
  · intro j before
    by_cases here : j = i
    · exact here ▸ settled
    · obtain ⟨first, second⟩ := step.others j here
      have given : (s.attendErrand op i t.2).givenUpAt = s.givenUpAt := by
        rw [Scene.givenUpAt, Scene.givenUpAt, step.framed.limit, step.framed.since]
      refine ⟨by rw [first, second, before.same], by rw [first]; exact before.taken, ?_, ?_⟩
      · rw [first, spares.now]
        exact before.early
      · rw [Scene.isOut, first, given, spares.now]
        exact before.given

theorem Fanned.attendAll {begun : Nat} (fanned : Fanned op targets held place begun s n)
    (items : List ((StageKey × Handle) × Nat)) (done : List Nat)
    (listed : ∀ e ∈ items, targets[e.2]? = some e.1) (before : ∀ j ∈ done, Settled j s n) :
    Fanned op targets held place begun (items.foldl (fun s e => s.attendErrand op e.2 e.1.2) s)
        (items.foldl (fun s e => s.attendErrand op e.2 e.1.2) n) ∧
      ∀ j ∈ done ++ items.map (·.2), Settled j
        (items.foldl (fun s e => s.attendErrand op e.2 e.1.2) s)
        (items.foldl (fun s e => s.attendErrand op e.2 e.1.2) n) := by
  induction items generalizing s n done with
  | nil => simpa using ⟨fanned, before⟩
  | cons head rest ih =>
    obtain ⟨here, others⟩ := List.forall_mem_cons.mp listed
    obtain ⟨fanned', settled, kept⟩ := fanned.attend here
    obtain ⟨fanned'', seen⟩ := ih fanned' (done ++ [head.2]) others (by
      intro j mem
      rcases List.mem_append.mp mem with earlier | now
      · exact kept j (before j earlier)
      · exact List.mem_singleton.mp now ▸ settled)
    exact ⟨fanned'', by simpa using seen⟩

theorem known_of_report {report : Report StageKey} (found : s.report? targets = some report) :
    s.AllKnown := by
  intro j within
  obtain ⟨outcomes, gathered, _⟩ := Option.map_eq_some_iff.mp found
  have ended := InFlight.ended_of_mapM gathered
  have stands : s.errands[j]? = outcomes[j]?.map .ended := by
    rw [← Array.getElem?_toList, ended, List.getElem?_map]
  rw [Array.getElem?_eq_getElem within] at stands
  obtain ⟨outcome, _, here⟩ := Option.map_eq_some_iff.mp stands.symm
  exact ⟨outcome, by rw [Array.getElem?_eq_getElem within, ← here]; rfl⟩

theorem Fanned.attendErrands (fanned : Fanned op targets held place targets.length s n) :
    Fanned op targets held place targets.length (s.attendErrands op targets)
        (n.attendErrands op targets) ∧
      (n.attendErrands op targets).errands = (s.attendErrands op targets).errands ∧
      (∀ time, (s.attendErrands op targets).FanDue time → s.now < time) ∧
      ((s.attendErrands op targets).AllKnown ↔ ((s.attendErrands op targets).report? targets).isSome) := by
  obtain ⟨fanned', settled⟩ := fanned.attendAll targets.zipIdx []
    (fun e mem => List.mem_zipIdx_iff_getElem?.mp mem) (by simp)
  have spares : Spares (fun _ => True) (.part place) s (s.attendErrands op targets) := .attendErrands s op targets
  change Fanned op targets held place targets.length (s.attendErrands op targets)
    (n.attendErrands op targets) at fanned'
  change ∀ j ∈ _, Settled j (s.attendErrands op targets) (n.attendErrands op targets) at settled
  generalize s.attendErrands op targets = s' at fanned' settled spares ⊢
  generalize n.attendErrands op targets = n' at fanned' settled ⊢
  have seen (j : Nat) (within : j < s'.errands.size) : Settled j s' n' := by
    apply settled
    rw [fanned'.size] at within
    simpa using within
  have same : n'.errands = s'.errands := by
    apply Array.ext_getElem?
    intro j
    by_cases within : j < s'.errands.size
    · exact (seen j within).same
    · rw [Array.getElem?_eq_none (Nat.le_of_not_lt within),
        Array.getElem?_eq_none (Nat.le_of_not_lt (fanned'.tandem.size ▸ within))]
  refine ⟨fanned', same, ?_, ?_⟩
  · intro time due
    rw [← spares.now]
    rcases due with ⟨j, failure, stands⟩ | ⟨⟨j, out⟩, given⟩
    · exact (seen j (Array.getElem?_eq_some_iff.mp stands).1).early time failure stands
    · have within : j < s'.errands.size := by
        by_contra beyond
        rw [Scene.isOut, Array.getElem?_eq_none (Nat.le_of_not_lt beyond)] at out
        cases out
      exact (seen j within).given time out given
  · constructor
    · intro known
      by_contra open_end
      obtain ⟨j, out⟩ := out_of_report (Option.not_isSome_iff_eq_none.mp open_end)
      rw [Scene.isOut, Option.any_eq_true] at out
      obtain ⟨e, stands, unsettled⟩ := out
      have within := (Array.getElem?_eq_some_iff.mp stands).1
      obtain ⟨outcome, heard⟩ := known j within
      have taken := (seen j within).taken
      rw [stands] at heard taken
      cases e with
      | delayed time failure => cases heard
      | ended outcome => cases unsettled
      | sent answer =>
        cases answer with
        | none => cases heard
        | some outcome => exact taken outcome rfl
    · intro reported
      obtain ⟨report, found⟩ := Option.isSome_iff_exists.mp reported
      exact known_of_report found

/-! ### Beginning -/

theorem Tandem.meet (tandem : Tandem s n) (call : LoggedCall) :
    (n.world.meet call).2 = (s.world.meet call).2 ∧
      Tandem { s with world := (s.world.meet call).1 } { n with world := (n.world.meet call).1 } := by
  obtain ⟨alike, paced, orderly, roused⟩ := tandem
  obtain ⟨⟨_, _, _, _, _, _, _, rfl⟩, errands, size, ahead⟩ := alike
  refine ⟨rfl, ⟨⟨_, _, _, _, _, _, _, rfl⟩, errands, size, ?_⟩, paced.follow rfl rfl rfl rfl, ?_, ?_⟩
  · intro h r r' found found'
    exact ⟨(ahead h r r' found found').mustStop, (ahead h r r' found found').mail⟩
  · exact ⟨orderly.going, orderly.past, orderly.posted, orderly.single⟩
  · exact ⟨roused.mailed, roused.called⟩

/-- Mail of all fan-outs so far is of no consequence to a new one. -/
theorem Tandem.openRound (tandem : Tandem s n) :
    Tandem { s with round := s.round + 1, since := s.now, errands := #[] }
      { n with round := n.round + 1, since := n.now, errands := #[] } := by
  obtain ⟨alike, paced, orderly, roused⟩ := tandem
  obtain ⟨⟨_, _, _, _, _, _, _, rfl⟩, errands, size, ahead⟩ := alike
  have stale (h : Handle) (r : Resident) (found : s.world.residents[h]? = some r) (l : Letter)
      (mem : l ∈ r.mail) : l.round ≠ s.round + 1 := by
    have := orderly.past h r found l mem
    omega
  refine ⟨⟨⟨_, _, _, _, _, _, _, rfl⟩, rfl, size, ?_⟩, paced.follow rfl rfl rfl rfl, ?_,
    ⟨roused.mailed, roused.called⟩⟩
  · intro h r r' found found'
    obtain ⟨mustStop, old, mail, read, _⟩ := ahead h r r' found found'
    refine ⟨mustStop, old, mail, read, ?_⟩
    intro l mem current
    exact absurd current (stale h r found l (by rw [mail]; exact List.mem_append_left _ mem))
  · refine ⟨orderly.going, ?_, ?_, ?_⟩
    · intro h r found l mem
      exact Nat.le_succ_of_le (orderly.past h r found l mem)
    · intro h r found l mem current
      exact absurd current (stale h r found l mem)
    · intro h h' r r' found _ l mem _ _ current
      exact absurd current (stale h r found l mem)

theorem Tandem.push (tandem : Tandem s n) (time : Option Nat) (failure : Option String) :
    Tandem { s with errands := s.errands.push (.delayed time failure) }
      { n with errands := n.errands.push (.delayed time failure) } := by
  obtain ⟨alike, paced, orderly, roused⟩ := tandem
  obtain ⟨⟨_, _, _, _, _, _, _, rfl⟩, errands, size, ahead⟩ := alike
  have kept {j : Nat} {e : Errand} (stands : s.errands[j]? = some e) :
      (s.errands.push (.delayed time failure))[j]? = some e := by
    have within := (Array.getElem?_eq_some_iff.mp stands).1
    rw [Array.getElem?_push, if_neg (Nat.ne_of_lt within), stands]
  refine ⟨⟨⟨_, _, _, _, _, _, _, rfl⟩, ?_, size, ?_⟩, paced.follow rfl rfl rfl rfl, ?_,
    ⟨roused.mailed, roused.called⟩⟩
  · simp only [Array.map_push]
    exact congrArg (·.push (.delayed time failure)) errands
  · intro h r r' found found'
    obtain ⟨mustStop, old, mail, read, idle⟩ := ahead h r r' found found'
    refine ⟨mustStop, old, mail, read, ?_⟩
    intro l mem current
    obtain ⟨outcome, known⟩ := idle l mem current
    obtain ⟨e, stands, heard⟩ := Option.map_eq_some_iff.mp known
    exact ⟨outcome, by rw [kept stands, Option.map_some, heard]⟩
  · refine ⟨orderly.going, orderly.past, ?_, orderly.single⟩
    intro h r found l mem current
    obtain ⟨e, stands, sent⟩ := orderly.posted h r found l mem current
    exact ⟨e, kept stands, sent⟩

theorem Tandem.cueAt (tandem : Tandem s n) (time : Option Nat) (place : Nat) :
    Tandem (s.cueAt time place) (n.cueAt time place) :=
  tandem.noise (.cueAt _ _ _) (.cueAt _ _ _) (tandem.paced.cueAt tandem.now time place)
    (Livelier.cueAt _ _ _).toAttentive

theorem mem_cueAt {time : Nat} (later : s.now < time) (place : Nat) :
    ⟨time, .part place⟩ ∈ (s.cueAt (some time) place).cues := by
  simp only [Scene.cueAt, if_pos later, Scene.cue]
  split
  · assumption
  · simp

theorem cueAt_still (s : Scene) (time : Option Nat) (place : Nat) :
    (s.cueAt time place).errands = s.errands ∧
      (s.cueAt time place).world.residents = s.world.residents ∧
      (s.cueAt time place).givenUpAt = s.givenUpAt := by
  obtain ⟨_, _, _, _, _, same⟩ := Noise.cueAt s time place
  rw [same]
  exact ⟨rfl, rfl, rfl⟩

theorem cueAt_twice (s : Scene) (first second : Option Nat) (place : Nat) :
    let s' := (s.cueAt first place).cueAt second place
    Spares (fun _ => True) (.part place) s s' ∧ s'.errands = s.errands ∧
      s'.world.residents = s.world.residents ∧ s'.givenUpAt = s.givenUpAt ∧
      ∀ time, s.now < time → first = some time ∨ second = some time →
        ⟨time, .part place⟩ ∈ s'.cues := by
  obtain ⟨errands₁, residents₁, given₁⟩ := cueAt_still s first place
  obtain ⟨errands₂, residents₂, given₂⟩ := cueAt_still (s.cueAt first place) second place
  have one : Spares (fun _ => True) (.part place) s (s.cueAt first place) := .cueAt _ _ _
  have two : Spares (fun _ => True) (.part place) (s.cueAt first place)
      ((s.cueAt first place).cueAt second place) := .cueAt _ _ _
  refine ⟨one.trans two, errands₂.trans errands₁, residents₂.trans residents₁, given₂.trans given₁, ?_⟩
  rintro time later (rfl | rfl)
  · exact two.cues _ (mem_cueAt later place) trivial
  · exact mem_cueAt (one.now ▸ later) place

theorem Scene.FanDue.same {time : Nat} (due : s'.FanDue time) (errands : s'.errands = s.errands)
    (given : s'.givenUpAt = s.givenUpAt) : s.FanDue time := by
  rcases due with ⟨j, failure, stands⟩ | ⟨⟨j, isOut⟩, limit⟩
  · exact .inl ⟨j, failure, errands ▸ stands⟩
  · rw [Scene.isOut, errands] at isOut
    exact .inr ⟨⟨j, isOut⟩, given ▸ limit⟩

theorem Courteous.same (courteous : Courteous op targets held s)
    (errands : s'.errands = s.errands) (residents : s'.world.residents = s.world.residents) :
    Courteous op targets held s' where
  apart := courteous.apart
  leaving := courteous.leaving
  reaches h mem := (courteous.reaches h mem).of_residents residents
  unsent i t listed unsent := by
    refine (courteous.unsent i t listed ?_).of_residents residents
    rwa [Scene.Unsent, ← errands]

theorem Tandem.dueOf (tandem : Tandem s n) (call : LoggedCall) : n.dueOf call = s.dueOf call := by
  rw [Scene.dueOf, Scene.dueOf, (tandem.meet call).1, tandem.now]

theorem Tandem.enlist (tandem : Tandem s n) (call : LoggedCall) :
    Tandem (s.enlist call) (n.enlist call) := by
  have pushed := (tandem.meet call).2.push (s.dueOf call) (s.world.meet call).2.failure
  unfold Scene.enlist
  rw [tandem.dueOf, (tandem.meet call).1]
  exact pushed

theorem getElem?_enlist (s : Scene) (call : LoggedCall) (j : Nat) :
    (s.enlist call).errands[j]? = if j = s.errands.size then
      some (.delayed (s.dueOf call) (s.world.meet call).2.failure) else s.errands[j]? :=
  Array.getElem?_push

theorem Courteous.enlist (courteous : Courteous op targets held s) (call : LoggedCall) :
    Courteous op targets held (s.enlist call) where
  apart := courteous.apart
  leaving := courteous.leaving
  reaches h mem := (courteous.reaches h mem).of_residents rfl
  unsent j t listed unsent := by
    refine (courteous.unsent j t listed ?_).of_residents rfl
    intro e stands
    have other : j ≠ s.errands.size := Nat.ne_of_lt (Array.getElem?_eq_some_iff.mp stands).1
    exact unsent e (by rw [getElem?_enlist, if_neg other, stands])

theorem Pursued.fanDue_enlist {call : LoggedCall} (step : Pursued s.errands.size op handle
    (s.enlist call) (n.enlist call) s' n') {time : Nat} (due : s'.FanDue time) :
    s.FanDue time ∨ (s'.isOut s.errands.size = true ∧
      (s.dueOf call = some time ∨ s'.givenUpAt = some time)) := by
  have given : s'.givenUpAt = s.givenUpAt := by
    rw [Scene.givenUpAt, step.framed.limit, step.framed.since]
    rfl
  rcases due with ⟨j, failure, there⟩ | ⟨⟨j, out⟩, limit⟩
  · by_cases this : j = s.errands.size
    · subst this
      have before := step.delayed _ _ there
      rw [getElem?_enlist, if_pos rfl, Option.some.injEq, Errand.delayed.injEq] at before
      exact .inr ⟨by rw [Scene.isOut, there]; rfl, .inl before.1⟩
    · rw [(step.others j this).1, getElem?_enlist, if_neg this] at there
      exact .inl (.inl ⟨j, failure, there⟩)
  · by_cases this : j = s.errands.size
    · exact .inr ⟨this ▸ out, .inr limit⟩
    · rw [Scene.isOut, (step.others j this).1, getElem?_enlist, if_neg this] at out
      exact .inl (.inr ⟨⟨j, out⟩, given ▸ limit⟩)

theorem Fanned.start {t : StageKey × Handle} {begun : Nat}
    (fanned : Fanned op targets held place begun s n) (listed : targets[begun]? = some t) :
    Fanned op targets held place (begun + 1) (s.startErrand place op t) (n.startErrand place op t) := by
  obtain ⟨tandem, courteous, cued, rfl⟩ := fanned
  have enlisted := tandem.enlist (.request op t.1)
  have courteous₁ := courteous.enlist (.request op t.1)
  obtain ⟨step, settled⟩ := attended enlisted (courteous₁.unsent _ t listed) op
  have spares : Spares (fun _ => True) (.part place) (s.enlist (.request op t.1))
      ((s.enlist (.request op t.1)).attendErrand op s.errands.size t.2) := .attendErrand _ _ _ _
  rw [Scene.startErrand_eq, Scene.startErrand_eq, tandem.size, tandem.dueOf]
  generalize (s.enlist (.request op t.1)).attendErrand op s.errands.size t.2 = s₂
    at step settled spares ⊢
  generalize (n.enlist (.request op t.1)).attendErrand op s.errands.size t.2 = n₂ at step settled ⊢
  have size : s₂.errands.size = s.errands.size + 1 := step.size.trans (Array.size_push _)
  have now : s₂.now = s.now := step.framed.now
  have kept {c : Cue} (mem : c ∈ s.cues) : c ∈ s₂.cues := spares.cues c mem trivial
  have out : n₂.isOut s.errands.size = s₂.isOut s.errands.size := by
    rw [Scene.isOut, Scene.isOut, settled.same]
  dsimp only
  rw [out, step.tandem.givenUpAt]
  split
  · have tandem₂ := (step.tandem.cueAt (s.dueOf (.request op t.1)) place).cueAt s₂.givenUpAt place
    obtain ⟨spares₂, errands₂, residents₂, given₂, cued₂⟩ :=
      cueAt_twice s₂ (s.dueOf (.request op t.1)) s₂.givenUpAt place
    refine ⟨tandem₂, (courteous₁.pursued listed step).same errands₂ residents₂, ?_,
      by rw [errands₂, size]⟩
    intro time here later
    rw [spares₂.now] at later
    rcases step.fanDue_enlist (here.same errands₂ given₂) with earlier | ⟨_, due⟩
    · exact spares₂.cues _ (kept (cued time earlier (now ▸ later))) trivial
    · exact cued₂ time later due
  · rename_i settled_now
    refine ⟨step.tandem, courteous₁.pursued listed step, ?_, size⟩
    intro time here later
    rcases step.fanDue_enlist here with before | ⟨isOut, _⟩
    · exact kept (cued time before (now ▸ later))
    · exact absurd isOut settled_now

theorem Fanned.startAll {begun : Nat} (fanned : Fanned op targets held place begun s n)
    (rest : List (StageKey × Handle)) (left : targets.drop begun = rest)
    (within : begun ≤ targets.length) :
    Fanned op targets held place targets.length
      (rest.foldl (fun s target => s.startErrand place op target) s)
      (rest.foldl (fun s target => s.startErrand place op target) n) := by
  induction rest generalizing s n begun with
  | nil =>
    have all : begun = targets.length := Nat.le_antisymm within (List.drop_eq_nil_iff.mp left)
    exact all ▸ fanned
  | cons t rest ih =>
    have more : begun < targets.length := by
      by_contra beyond
      rw [List.drop_eq_nil_iff.mpr (Nat.le_of_not_lt beyond)] at left
      cases left
    rw [List.drop_eq_getElem_cons more, List.cons.injEq] at left
    obtain ⟨rfl, onward⟩ := left
    exact ih (fanned.start (List.getElem?_eq_getElem more)) onward more

end
end FlowRuntime.Rehearsal
