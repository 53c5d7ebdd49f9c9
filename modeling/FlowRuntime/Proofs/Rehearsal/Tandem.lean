import FlowRuntime.Proofs.Rehearsal.Hush

/-!
Two scenes side by side. What is done about a run in one of two scenes that are alike is done
in the other as well: the same letters are sent, the same errands are given up, and what has
been read of older mail makes no difference, as long as nobody is asked who may have been told
to stop and may not have read it.
-/
namespace FlowRuntime.Rehearsal

def Player.isPart : Player → Bool
  | .part _ => true
  | _ => false

theorem wakeListeners_frame (s : Scene) (listeners : List Nat) :
    ∃ called, s.wakeAll (listeners.map .listener) = { s with called } := by
  induction listeners generalizing s with
  | nil => exact ⟨_, rfl⟩
  | cons i rest ih =>
    obtain ⟨called, same⟩ := ih (s.wake (.listener i))
    exact ⟨called, same⟩

theorem see_frame (s : Scene) (run : Run) :
    ∃ audience called, s.see run = { s with run, audience, called } := by
  have told (news : List Transition) (s : Scene) : ∃ audience called,
      news.foldl (fun s t => { s with audience := s.audience.tell ⟨t, s.secs⟩ }.wakeAll
        (s.audience.idle.map Player.listener)) s = { s with audience, called } := by
    induction news generalizing s with
    | nil => exact ⟨_, _, rfl⟩
    | cons t rest ih =>
      obtain ⟨called, woken⟩ := wakeListeners_frame
        { s with audience := s.audience.tell ⟨t, s.secs⟩ } s.audience.idle
      obtain ⟨audience', called', same⟩ := ih
        { s with audience := s.audience.tell ⟨t, s.secs⟩, called := called }
      refine ⟨audience', called', ?_⟩
      rw [List.foldl_cons, woken, same]
  exact told _ { s with run := run }

/-! ### Whom a part leaves alone -/

/-- Time has not passed, the turn is with whom it was, no part is stirred, and these players go on
waiting for what they waited for; whatever else is waited for is still to come, and by this one. At
most, more has been called. -/
structure Spares (others : Player → Prop) (mine : Player) (s s' : Scene) : Prop where
  now : s'.now = s.now
  limit : s'.limit = s.limit
  turn : s'.turn = s.turn
  line : s'.line = s.line
  cues : ∀ c ∈ s.cues, others c.player → c ∈ s'.cues
  later : ∀ c ∈ s'.cues, c ∈ s.cues ∨ (s.now < c.time ∧ c.player = mine)
  stirred : s'.stirred = s.stirred
  joiners : s'.joiners = s.joiners
  calls : s.world.calls <:+ s'.world.calls

namespace Spares
variable {others others' : Player → Prop} {mine : Player} {s s' s'' : Scene}

theorem refl (s : Scene) : Spares others mine s s :=
  ⟨rfl, rfl, rfl, rfl, fun _ mem _ => mem, fun _ => .inl, rfl, rfl, List.suffix_refl _⟩

theorem trans (first : Spares others mine s s') (second : Spares others mine s' s'') :
    Spares others mine s s'' where
  now := second.now.trans first.now
  limit := second.limit.trans first.limit
  turn := second.turn.trans first.turn
  line := second.line.trans first.line
  cues c mem spared := second.cues c (first.cues c mem spared) spared
  later c mem := by
    rcases second.later c mem with before | new
    · exact first.later c before
    · exact .inr (first.now ▸ new)
  stirred := second.stirred.trans first.stirred
  joiners := second.joiners.trans first.joiners
  calls := first.calls.trans second.calls

theorem of_same (now : s'.now = s.now) (limit : s'.limit = s.limit) (turn : s'.turn = s.turn)
    (line : s'.line = s.line) (cues : s'.cues = s.cues) (stirred : s'.stirred = s.stirred)
    (joiners : s'.joiners = s.joiners) (calls : s.world.calls <:+ s'.world.calls) :
    Spares others mine s s' where
  now := now
  limit := limit
  turn := turn
  line := line
  cues _ mem _ := cues ▸ mem
  later _ mem := .inl (cues ▸ mem)
  stirred := stirred
  joiners := joiners
  calls := calls

theorem foldl {ι : Type} {f : Scene → ι → Scene} (each : ∀ s i, Spares others mine s (f s i))
    (s : Scene) (items : List ι) : Spares others mine s (items.foldl f s) := by
  refine List.foldlRecOn items f (refl s) ?_
  intro s' kept i _
  exact kept.trans (each s' i)

theorem wake (s : Scene) {p : Player} (other : p.isPart = false) :
    Spares others mine s (s.wake p) := by
  cases p with
  | part place => cases other
  | resident handle => exact of_same rfl rfl rfl rfl rfl rfl rfl (List.suffix_refl _)
  | listener i => exact of_same rfl rfl rfl rfl rfl rfl rfl (List.suffix_refl _)

theorem cue {time : Nat} (s : Scene) (later : s.now < time) (p : Player) :
    Spares others p s (s.cue time p) := by
  unfold Scene.cue
  split
  · exact refl s
  · refine ⟨rfl, rfl, rfl, rfl, fun _ mem _ => List.mem_append_left _ mem, ?_, rfl, rfl,
      List.suffix_refl _⟩
    intro c mem
    rcases List.mem_append.mp mem with before | new
    · exact .inl before
    · rw [List.mem_singleton.mp new]
      exact .inr ⟨later, rfl⟩

theorem cueAt (s : Scene) (time : Option Nat) (place : Nat) :
    Spares others (.part place) s (s.cueAt time place) := by
  apply Scene.cueAt_induction (refl s)
  intro time later
  exact cue s later _

theorem see (s : Scene) (run : Run) : Spares others mine s (s.see run) := by
  obtain ⟨_, _, same⟩ := see_frame s run
  rw [same]
  exact of_same rfl rfl rfl rfl rfl rfl rfl (List.suffix_refl _)

theorem setErrand (s : Scene) (i : Nat) (e : Errand) : Spares others mine s (s.setErrand i e) :=
  of_same rfl rfl rfl rfl rfl rfl rfl (List.suffix_refl _)

theorem send (s : Scene) (i : Nat) (handle : Handle) (op : InstanceOp) :
    Spares others mine s (s.send i handle op) := by
  unfold Scene.send
  split
  · exact of_same rfl rfl rfl rfl rfl rfl rfl (List.suffix_refl _)
  · dsimp only
    split <;> exact of_same rfl rfl rfl rfl rfl rfl rfl (List.suffix_refl _)

theorem attendErrand (s : Scene) (op : InstanceOp) (i : Nat) (handle : Handle) :
    Spares others mine s (s.attendErrand op i handle) := by
  apply Scene.attendErrand_induction (P := Spares others mine s) (refl s)
  · intro s' outcome spares
    exact spares.trans (setErrand s' i _)
  · exact send s i handle op

theorem attendErrands (s : Scene) (op : InstanceOp) (targets : List (StageKey × Handle)) :
    Spares others mine s (s.attendErrands op targets) :=
  foldl (fun s (e : (StageKey × Handle) × Nat) => attendErrand s op e.2 e.1.2) s _

theorem startErrand (s : Scene) (place : Nat) (op : InstanceOp) (target : StageKey × Handle) :
    Spares others (.part place) s (s.startErrand place op target) := by
  apply Scene.startErrand_induction (P := Spares others (.part place) s)
  · intro e
    exact of_same rfl rfl rfl rfl rfl rfl rfl (List.suffix_cons _ _)
  · intro s' i spares
    exact spares.trans (attendErrand s' op i target.2)
  · intro s' time spares
    exact spares.trans (cueAt s' time place)

theorem beginSingle (s : Scene) (place : Nat) (call : LoggedCall) :
    Spares others (.part place) s (s.beginSingle place call).1 := by
  have met : Spares others (.part place) s { s with world := (s.world.meet call).1 } :=
    of_same rfl rfl rfl rfl rfl rfl rfl (List.suffix_cons _ _)
  exact met.trans (cueAt _ _ place)

theorem beginCall (s : Scene) (place : Nat) (call : Call) :
    Spares others (.part place) s (s.beginCall place call).1 := by
  apply Scene.beginCall_induction (P := Spares others (.part place) s) (beginSingle s place)
  · exact of_same rfl rfl rfl rfl rfl rfl rfl (List.suffix_refl _)
  · intro s' op target spares
    exact spares.trans (startErrand s' place op target)

theorem single? {α : Type} (s : Scene) (fate : Fate) (go : World → World × Except Failure α)
    (unlogged : (go s.world).1.calls = s.world.calls) : Spares others mine s (s.single? fate go).1 := by
  unfold Scene.single?
  split
  · exact refl s
  · split
    · exact refl s
    · exact of_same rfl rfl rfl rfl rfl rfl rfl (unlogged ▸ List.suffix_refl _)

theorem answer? (s : Scene) (fate : Fate) (call : Call) :
    Spares others mine s (s.answer? fate call).1 := by
  cases call with
  | bind groups => exact single? s fate (·.bind groups) rfl
  | repartition group => exact single? s fate (·.repartition group) rfl
  | start options =>
    have unlogged : (s.world.start options).1.calls = s.world.calls := by
      unfold World.start
      split <;> rfl
    refine (single? s fate (·.start options) unlogged).trans ?_
    simp only [Scene.answer?, Scene.greet]
    split
    · exact wake _ rfl
    · exact refl _
  | fanOut op targets => exact attendErrands s op targets

theorem dropCues (s : Scene) (p : Player) : Spares (· ≠ p) mine s (s.dropCues p) := by
  refine ⟨rfl, rfl, rfl, rfl, ?_, fun _ mem => .inl (List.mem_of_mem_filter mem), rfl, rfl,
    List.suffix_refl _⟩
  intro c mem other
  simpa [Scene.dropCues] using ⟨mem, other⟩

theorem keptByCalls (s : Scene) (place : Nat) :
    Scene.KeptByCalls place (Spares (· ≠ .part place) (.part place) s) where
  seen s' run spares := spares.trans (see s' run)
  begun s' call spares := spares.trans (beginCall s' place call)
  looked s' fate call spares := spares.trans (answer? s' fate call)
  dropped s' spares := spares.trans (dropCues s' _)

theorem drive {α : Type} (s : Scene) (place : Nat) (a : Activity α) :
    Spares (· ≠ .part place) (.part place) s (s.drive place a).1 :=
  (keptByCalls s place).drive (refl s) a

theorem goOn {α : Type} (s : Scene) (place : Nat) (u : Undertaking α) :
    Spares (· ≠ .part place) (.part place) s (s.goOn place u).1 :=
  (keptByCalls s place).goOn (refl s) u

end Spares

/-! ### Who can be asked, and what is known -/

namespace Scene

def Reaches (s : Scene) (handle : Handle) : Prop :=
  ∃ r, s.world.residents[handle]? = some r ∧ ∀ l ∈ r.mail, l.op ≠ .stop

def Knows (s : Scene) (i : Nat) : Prop :=
  ∃ outcome, s.errands[i]?.map Errand.heard = some (.ended outcome)

def AllKnown (s : Scene) : Prop := ∀ i < s.errands.size, s.Knows i

structure IsFree (s : Scene) (held : List Handle) : Prop where
  reaches : ∀ handle ∈ held, s.Reaches handle
  known : s.AllKnown

def Unsent (s : Scene) (i : Nat) : Prop :=
  ∀ e, s.errands[i]? = some e → ∃ time failure, e = .delayed time failure

def FanDue (s : Scene) (time : Nat) : Prop :=
  (∃ i : Nat, ∃ failure, s.errands[i]? = some (.delayed (some time) failure)) ∨
    ((∃ i, s.isOut i = true) ∧ s.givenUpAt = some time)

end Scene

/-- When the parts of the step are cued, in the order in which their waits began. -/
def Scene.partCues (s : Scene) : List Cue := s.cues.filter (·.player.isPart)

/-- The same parts have been stirred in both scenes, and are cued, in the same order. -/
structure Paced (s n : Scene) : Prop where
  stirred : n.stirred = s.stirred
  cues : n.partCues = s.partCues

/-- Two scenes that are alike and in which parts go on at the same pace; the first is in order, and
whoever has mail in it has a turn to come. -/
structure Tandem (s n : Scene) : Prop where
  alike : Alike s n
  paced : Paced s n
  orderly : s.Orderly
  roused : Roused s

section
variable {s s' s'' n n' n'' : Scene} {i : Nat} {op : InstanceOp} {handle : Handle}

theorem Tandem.noise (tandem : Tandem s n) (noise : Noise s s') (noise' : Noise n n')
    (paced : Paced s' n') (attentive : Attentive s s') : Tandem s' n' :=
  ⟨tandem.alike.noise noise noise', paced, noise.orderly tandem.orderly,
    tandem.roused.attentive attentive⟩

theorem Paced.follow (paced : Paced s n) (stirred : s'.stirred = s.stirred) (cues : s'.cues = s.cues)
    (stirred' : n'.stirred = n.stirred) (cues' : n'.cues = n.cues) : Paced s' n' where
  stirred := by rw [stirred, stirred', paced.stirred]
  cues := by
    have same := paced.cues
    rwa [Scene.partCues, Scene.partCues, ← cues, ← cues'] at same

theorem Paced.cue (paced : Paced s n) (time place : Nat) :
    Paced (s.cue time (.part place)) (n.cue time (.part place)) := by
  have listed (s : Scene) : ⟨time, .part place⟩ ∈ s.partCues ↔ ⟨time, .part place⟩ ∈ s.cues := by
    simp [Scene.partCues, Player.isPart]
  have cued (s : Scene) : (s.cue time (.part place)).stirred = s.stirred ∧
      (s.cue time (.part place)).partCues =
        if ⟨time, .part place⟩ ∈ s.partCues then s.partCues
        else s.partCues ++ [⟨time, .part place⟩] := by
    rw [Scene.cue]
    by_cases before : ⟨time, .part place⟩ ∈ s.cues
    · rw [if_pos before, if_pos ((listed s).mpr before)]
      exact ⟨rfl, rfl⟩
    · rw [if_neg before, if_neg fun mem => before ((listed s).mp mem)]
      exact ⟨rfl, by simp [Scene.partCues, Player.isPart]⟩
  refine ⟨?_, ?_⟩
  · rw [(cued s).1, (cued n).1, paced.stirred]
  · rw [(cued s).2, (cued n).2, paced.cues]

theorem Paced.cueAt (paced : Paced s n) (now : n.now = s.now) (time : Option Nat) (place : Nat) :
    Paced (s.cueAt time place) (n.cueAt time place) := by
  unfold Scene.cueAt
  cases time with
  | none => exact paced
  | some time =>
    dsimp only
    rw [now]
    split
    · exact paced.cue time place
    · exact paced

theorem Paced.dropCues (paced : Paced s n) (p : Player) : Paced (s.dropCues p) (n.dropCues p) := by
  have dropped (s : Scene) : (s.dropCues p).partCues = s.partCues.filter (·.player ≠ p) := by
    simp only [Scene.partCues, Scene.dropCues, List.filter_filter]
    congr 1
    funext c
    exact Bool.and_comm _ _
  exact ⟨paced.stirred, by rw [dropped, dropped, paced.cues]⟩

theorem Tandem.now (tandem : Tandem s n) : n.now = s.now := by
  obtain ⟨_, _, _, _, _, _, _, rfl⟩ := tandem.alike.frame
  rfl

theorem Tandem.size (tandem : Tandem s n) : n.errands.size = s.errands.size := by
  simpa using congrArg Array.size tandem.alike.errands

theorem Tandem.isUp (tandem : Tandem s n) (time : Option Nat) : n.isUp time = s.isUp time := by
  rw [Scene.isUp, Scene.isUp, tandem.now]

theorem Tandem.givenUpAt (tandem : Tandem s n) : n.givenUpAt = s.givenUpAt := by
  obtain ⟨_, _, _, _, _, _, _, rfl⟩ := tandem.alike.frame
  rfl

theorem Tandem.getElem? (tandem : Tandem s n) {e : Errand} (stands : s.errands[i]? = some e) :
    ∃ e', n.errands[i]? = some e' ∧ e'.heard = e.heard := by
  have heard := tandem.alike.getElem? i
  rw [stands, Option.map_some] at heard
  exact Option.map_eq_some_iff.mp heard

theorem Tandem.getElem?_none (tandem : Tandem s n) (stands : s.errands[i]? = none) :
    n.errands[i]? = none := by
  have heard := tandem.alike.getElem? i
  rwa [stands, Option.map_none, Option.map_eq_none_iff] at heard

theorem Errand.eq_of_heard {e e' : Errand} (heard : e'.heard = e.heard)
    (unanswered : ∀ outcome, e.heard ≠ .ended outcome) : e' = e := by
  cases e with
  | ended outcome => exact absurd rfl (unanswered outcome)
  | delayed time failure =>
    cases e' with
    | delayed time' failure' => exact heard
    | ended outcome => cases heard
    | sent answer => cases answer <;> cases heard
  | sent answer =>
    cases answer with
    | some outcome => exact absurd rfl (unanswered outcome)
    | none => exact Errand.heard_eq_sent.mp heard

theorem Scene.Orderly.setErrand (orderly : s.Orderly) {e : Errand}
    (sent : ∀ time failure, e ≠ .delayed time failure) : (s.setErrand i e).Orderly := by
  refine ⟨orderly.going, orderly.past, ?_, orderly.single⟩
  intro h r found l mem current
  obtain ⟨e', stands, sent'⟩ := orderly.posted h r found l mem current
  simp only [Scene.setErrand, Array.getElem?_setIfInBounds]
  split
  · rename_i here
    rw [if_pos (here ▸ (Array.getElem?_eq_some_iff.mp stands).1)]
    exact ⟨e, rfl, sent⟩
  · exact ⟨e', stands, sent'⟩

theorem Tandem.setErrand (tandem : Tandem s n) {e : Errand}
    (sent : ∀ time failure, e ≠ .delayed time failure)
    (kept : s.Knows i → ∃ outcome, e.heard = .ended outcome) :
    Tandem (s.setErrand i e) (n.setErrand i e) := by
  refine ⟨?_, tandem.paced.follow rfl rfl rfl rfl, tandem.orderly.setErrand sent,
    ⟨tandem.roused.mailed, tandem.roused.called⟩⟩
  obtain ⟨⟨_, _, _, _, _, _, _, rfl⟩, errands, size, ahead⟩ := tandem.alike
  refine ⟨⟨_, _, _, _, _, _, _, rfl⟩, ?_, size, ?_⟩
  · simp only [Scene.setErrand, Array.map_setIfInBounds]
    exact congrArg (·.setIfInBounds i e.heard) errands
  · intro h r r' found found'
    obtain ⟨mustStop, old, mail, read, idle⟩ := ahead h r r' found found'
    refine ⟨mustStop, old, mail, read, ?_⟩
    intro l mem current
    have known := idle l mem current
    simp only [Scene.setErrand, Array.getElem?_setIfInBounds]
    split
    · rename_i here
      subst here
      obtain ⟨outcome, answered⟩ := kept known
      obtain ⟨_, before⟩ := known
      obtain ⟨_, stands, _⟩ := Option.map_eq_some_iff.mp before
      rw [if_pos (Array.getElem?_eq_some_iff.mp stands).1]
      exact ⟨outcome, congrArg some answered⟩
    · exact known

theorem Scene.Reaches.of_residents (reaches : s.Reaches handle)
    (same : s'.world.residents = s.world.residents) : s'.Reaches handle := by
  rwa [Scene.Reaches, same]

/-! ### Sending -/

/-- What has been made of an errand, in two scenes. -/
structure Pursued (i : Nat) (op : InstanceOp) (handle : Handle) (s n s' n' : Scene) : Prop where
  tandem : Tandem s' n'
  framed : Framed s s'
  size : s'.errands.size = s.errands.size
  others : ∀ j : Nat, j ≠ i → s'.errands[j]? = s.errands[j]? ∧ n'.errands[j]? = n.errands[j]?
  delayed : ∀ time failure, s'.errands[i]? = some (.delayed time failure) →
    s.errands[i]? = some (.delayed time failure)
  out : s'.isOut i = true → s.isOut i = true
  unsent : s'.Unsent i → s.Unsent i ∧ ∀ h, s.Reaches h → s'.Reaches h
  reaches : ∀ h, s.Reaches h → (h = handle → op ≠ .stop) → s'.Reaches h

theorem Pursued.refl (tandem : Tandem s n) (i : Nat) (op : InstanceOp) (handle : Handle) :
    Pursued i op handle s n s n :=
  ⟨tandem, ⟨rfl, rfl, rfl, rfl, rfl, rfl⟩, rfl, fun _ _ => ⟨rfl, rfl⟩, fun _ _ => id, id,
    fun unsent => ⟨unsent, fun _ => id⟩, fun _ reaches _ => reaches⟩

theorem Pursued.trans (first : Pursued i op handle s n s' n')
    (second : Pursued i op handle s' n' s'' n'') : Pursued i op handle s n s'' n'' where
  tandem := second.tandem
  framed :=
    ⟨second.framed.now.trans first.framed.now, second.framed.limit.trans first.framed.limit,
      second.framed.round.trans first.framed.round, second.framed.since.trans first.framed.since,
      second.framed.faults.trans first.framed.faults,
      second.framed.partitioner.trans first.framed.partitioner⟩
  size := second.size.trans first.size
  others j other := ⟨(second.others j other).1.trans (first.others j other).1,
    (second.others j other).2.trans (first.others j other).2⟩
  delayed time failure stands := first.delayed time failure (second.delayed time failure stands)
  out isOut := first.out (second.out isOut)
  unsent later := by
    obtain ⟨before, kept⟩ := second.unsent later
    obtain ⟨earlier, kept'⟩ := first.unsent before
    exact ⟨earlier, fun h reaches => kept h (kept' h reaches)⟩
  reaches h reaches apart := second.reaches h (first.reaches h reaches apart) apart

theorem getElem?_setErrand (s : Scene) (i j : Nat) (e : Errand) :
    (s.setErrand i e).errands[j]? = if j = i then s.errands[i]?.map (fun _ => e) else s.errands[j]? := by
  simp only [Scene.setErrand, Array.getElem?_setIfInBounds]
  by_cases here : j = i
  · subst here
    rw [if_pos rfl, if_pos rfl]
    split
    · rename_i within
      simp [within]
    · rename_i beyond
      simp [beyond]
  · rw [if_neg (Ne.symm here), if_neg here]

theorem getElem?_setErrand_self {e e' : Errand} (stands : s.errands[i]? = some e) :
    (s.setErrand i e').errands[i]? = some e' := by
  rw [getElem?_setErrand, if_pos rfl, stands]
  rfl

theorem Pursued.setErrand (tandem : Tandem s n) (op : InstanceOp) (handle : Handle) {e : Errand}
    (sent : ∀ time failure, e ≠ .delayed time failure)
    (kept : s.Knows i → ∃ outcome, e.heard = .ended outcome)
    (out : e.outcome? = none → s.isOut i = true) :
    Pursued i op handle s n (s.setErrand i e) (n.setErrand i e) where
  tandem := tandem.setErrand sent kept
  framed := ⟨rfl, rfl, rfl, rfl, rfl, rfl⟩
  size := by simp [Scene.setErrand]
  others j other := by simp [getElem?_setErrand, other]
  delayed time failure stands := by
    rw [getElem?_setErrand, if_pos rfl, Option.map_eq_some_iff] at stands
    obtain ⟨_, _, same⟩ := stands
    exact absurd same (sent time failure)
  out isOut := by
    rw [Scene.isOut, getElem?_setErrand, if_pos rfl, Option.any_map, Option.any_eq_true] at isOut
    obtain ⟨_, _, unsettled⟩ := isOut
    exact out (by simpa using unsettled)
  unsent unsent := by
    refine ⟨fun e' stands => ?_, fun _ => id⟩
    obtain ⟨time, failure, same⟩ := unsent e (by rw [getElem?_setErrand, if_pos rfl, stands]; rfl)
    exact absurd same (sent time failure)
  reaches _ reaches _ := reaches

theorem Scene.Reaches.resident_going {r r' : Resident} {s : Scene} (ahead : Resident.Ahead s r r')
    (unasked : ∀ l ∈ r.mail, l.op ≠ .stop) : r'.self.state = .stopped ↔ r.self.state = .stopped := by
  obtain ⟨_, old, mail, read, _⟩ := ahead
  constructor
  · intro stopped
    by_contra going
    rw [← read] at stopped
    refine LocalInstance.handleQueue_going going ?_ stopped
    intro op mem
    obtain ⟨l, among, rfl⟩ := List.mem_map.mp mem
    exact unasked l (by rw [mail]; exact List.mem_append_left _ among)
  · intro stopped
    rw [← read, LocalInstance.handleQueue_stopped stopped]
    exact stopped

theorem refusal?_eq (tandem : Tandem s n) (reaches : s.Reaches handle) (op : InstanceOp) :
    n.world.refusal? handle op = s.world.refusal? handle op := by
  obtain ⟨r, found, unasked⟩ := reaches
  have within : handle < n.world.residents.size := by
    rw [tandem.alike.size]
    exact (Array.getElem?_eq_some_iff.mp found).1
  obtain ⟨r', found'⟩ : ∃ r', n.world.residents[handle]? = some r' :=
    ⟨_, Array.getElem?_eq_getElem within⟩
  have ahead := tandem.alike.ahead handle r r' found found'
  have key : r'.self.key = r.self.key := by
    obtain ⟨_, old, _, read, _⟩ := ahead
    rw [← read, LocalInstance.handleQueue_key]
  simp [World.refusal?, found, found', key, Scene.Reaches.resident_going ahead unasked]

theorem Scene.Orderly.fresh (orderly : s.Orderly) {time : Option Nat} {failure : Option String}
    (stands : s.errands[i]? = some (.delayed time failure)) {h : Handle} {r : Resident}
    (found : s.world.residents[h]? = some r) {l : Letter} (mem : l ∈ r.mail)
    (current : l.round = s.round) : l.place ≠ i := by
  rintro rfl
  obtain ⟨e, here, sent⟩ := orderly.posted h r found l mem current
  rw [stands] at here
  cases here
  exact sent time failure rfl

theorem exists_before_post {w : World} {handle h : Handle} {l : Letter} {r' : Resident}
    (found : (w.post handle l).residents[h]? = some r') :
    ∃ r, w.residents[h]? = some r ∧ r'.self = r.self ∧ r'.mustStop = r.mustStop ∧
      r'.mail = r.mail ++ (if h = handle then [l] else []) := by
  rcases post_cases found with ⟨rfl, r, before, rfl⟩ | ⟨other, before⟩
  · exact ⟨r, before, rfl, rfl, by simp⟩
  · exact ⟨r', before, rfl, rfl, by simp [other]⟩

theorem mem_mail_post {w : World} {handle h : Handle} {l l' : Letter} {r' : Resident}
    (found : (w.post handle l).residents[h]? = some r') (mem : l' ∈ r'.mail) :
    (h = handle ∧ l' = l) ∨ ∃ r, w.residents[h]? = some r ∧ l' ∈ r.mail := by
  rcases post_cases found with ⟨here, r, before, rfl⟩ | ⟨_, before⟩
  · rcases List.mem_append.mp mem with older | new
    · exact .inr ⟨r, before, older⟩
    · exact .inl ⟨here, List.mem_singleton.mp new⟩
  · exact .inr ⟨r', before, mem⟩

theorem Alike.post (alike : Alike s n) (orderly : s.Orderly) {time : Option Nat}
    {failure : Option String} (stands : s.errands[i]? = some (.delayed time failure))
    (handle : Handle) (op : InstanceOp) :
    Alike ({ s with world := s.world.post handle ⟨s.round, i, op⟩ }.setErrand i (.sent none))
      ({ n with world := n.world.post handle ⟨n.round, i, op⟩ }.setErrand i (.sent none)) := by
  obtain ⟨⟨_, _, _, _, _, _, _, rfl⟩, errands, size, ahead⟩ := alike
  refine ⟨⟨_, _, _, _, _, _, _, rfl⟩, ?_, by simpa [Scene.setErrand, World.post] using size, ?_⟩
  · simp only [Scene.setErrand, Array.map_setIfInBounds]
    exact congrArg (·.setIfInBounds i (.sent none)) errands
  · intro h r₁ r₁' found found'
    obtain ⟨r, before, self, mustStop, mail⟩ := exists_before_post found
    obtain ⟨r', before', self', mustStop', mail'⟩ := exists_before_post found'
    obtain ⟨stop, old, split, read, idle⟩ := ahead h r r' before before'
    refine ⟨by rw [mustStop, mustStop', stop], old, ?_, by rw [self, self', read], ?_⟩
    · rw [mail, mail', split, List.append_assoc]
    · intro l mem current
      have known := idle l mem current
      have apart := orderly.fresh stands before (by rw [split]; exact List.mem_append_left _ mem) current
      simpa only [Scene.setErrand, Array.getElem?_setIfInBounds, if_neg (Ne.symm apart)] using known

theorem Scene.Orderly.post (orderly : s.Orderly) {time : Option Nat} {failure : Option String}
    (stands : s.errands[i]? = some (.delayed time failure)) (handle : Handle) (op : InstanceOp) :
    ({ s with world := s.world.post handle ⟨s.round, i, op⟩ }.setErrand i (.sent none)).Orderly where
  going h r₁ found := by
    obtain ⟨r, before, _, mustStop, _⟩ := exists_before_post found
    exact mustStop.trans (orderly.going h r before)
  past h r₁ found l mem := by
    rcases mem_mail_post found mem with ⟨_, rfl⟩ | ⟨r, before, older⟩
    · exact Nat.le_refl _
    · exact orderly.past h r before l older
  posted h r₁ found l mem current := by
    have within := (Array.getElem?_eq_some_iff.mp stands).1
    simp only [Scene.setErrand, Array.getElem?_setIfInBounds]
    rcases mem_mail_post found mem with ⟨_, rfl⟩ | ⟨r, before, older⟩
    · exact ⟨.sent none, by simp [within], by simp⟩
    · have apart := orderly.fresh stands before older current
      simpa only [if_neg (Ne.symm apart)] using orderly.posted h r before l older current
  single h h' r₁ r₂ found found' l mem l' mem' current current' same := by
    rcases mem_mail_post found mem with ⟨rfl, rfl⟩ | ⟨r, before, older⟩
    · rcases mem_mail_post found' mem' with ⟨rfl, _⟩ | ⟨r', before', older'⟩
      · rfl
      · exact absurd same.symm (orderly.fresh stands before' older' current')
    · rcases mem_mail_post found' mem' with ⟨rfl, rfl⟩ | ⟨r', before', older'⟩
      · exact absurd same (orderly.fresh stands before older current)
      · exact orderly.single h h' r r' before before' l older l' older' current current' same

theorem Scene.Reaches.post {h : Handle} (reaches : s.Reaches h) {l : Letter}
    (apart : h = handle → l.op ≠ .stop) :
    Scene.Reaches { s with world := s.world.post handle l } h := by
  obtain ⟨r, found, unasked⟩ := reaches
  simp only [Scene.Reaches, World.post, Array.getElem?_modify, found]
  split
  · rename_i here
    refine ⟨_, rfl, ?_⟩
    intro l' mem
    rcases List.mem_append.mp mem with older | new
    · exact unasked l' older
    · rw [List.mem_singleton.mp new]
      exact apart here.symm
  · exact ⟨r, rfl, unasked⟩

theorem send_opened (i : Nat) (opened : s.world.refusal? handle op = none) :
    ∃ called, s.send i handle op =
      { { s with world := s.world.post handle ⟨s.round, i, op⟩ }.setErrand i (.sent none) with
        called } := by
  unfold Scene.send
  rw [opened]
  dsimp only
  split
  · exact ⟨_, rfl⟩
  · exact ⟨_, rfl⟩

theorem Pursued.send (tandem : Tandem s n) {time : Option Nat} {failure : Option String}
    (stands : s.errands[i]? = some (.delayed time failure)) (reaches : s.Reaches handle)
    (op : InstanceOp) : Pursued i op handle s n (s.send i handle op) (n.send i handle op) ∧
      (s.send i handle op).errands[i]? = (n.send i handle op).errands[i]? ∧
      ∀ outcome, (s.send i handle op).errands[i]? ≠ some (.sent (some outcome)) := by
  have isOut : s.isOut i = true := by simp [Scene.isOut, stands, Errand.outcome?]
  obtain ⟨e', stands', _⟩ := tandem.getElem? stands
  have refusals := refusal?_eq tandem reaches op
  cases refused : s.world.refusal? handle op with
  | some outcome =>
    rw [refused] at refusals
    have unknown : ¬ s.Knows i := by simp [Scene.Knows, stands, Errand.heard]
    simp only [Scene.send, refused, refusals]
    refine ⟨Pursued.setErrand tandem op handle (by simp) (fun known => absurd known unknown)
      (fun _ => isOut), ?_, ?_⟩
    · rw [getElem?_setErrand_self stands, getElem?_setErrand_self stands']
    · intro outcome same
      rw [getElem?_setErrand_self stands] at same
      cases same
  | none =>
    have roused := tandem.roused.send i handle op
    obtain ⟨called, sends⟩ := send_opened i refused
    obtain ⟨called', sends'⟩ := send_opened i (refusals.trans refused)
    have sent : ({ s with world := s.world.post handle ⟨s.round, i, op⟩ }.setErrand i
        (.sent none)).errands[i]? = some (.sent none) := getElem?_setErrand_self stands
    have sent' : ({ n with world := n.world.post handle ⟨n.round, i, op⟩ }.setErrand i
        (.sent none)).errands[i]? = some (.sent none) := getElem?_setErrand_self stands'
    have noise (s' : Scene) (called : List Player) : Noise s' { s' with called } := ⟨_, _, _, _, _, rfl⟩
    rw [sends] at roused
    rw [sends, sends']
    refine ⟨⟨⟨?_, ?_, ?_, roused⟩, ⟨rfl, rfl, rfl, rfl, rfl, rfl⟩, ?_, ?_, ?_, ?_, ?_, ?_⟩, ?_, ?_⟩
    · exact (tandem.alike.post tandem.orderly stands handle op).noise (noise _ called) (noise _ called')
    · exact tandem.paced.follow rfl rfl rfl rfl
    · exact (noise _ called).orderly (tandem.orderly.post stands handle op)
    · simp [Scene.setErrand]
    · intro j other
      change (Scene.setErrand _ i _).errands[j]? = _ ∧ (Scene.setErrand _ i _).errands[j]? = _
      rw [getElem?_setErrand, getElem?_setErrand, if_neg other, if_neg other]
      exact ⟨rfl, rfl⟩
    · intro time' failure' here
      cases sent.symm.trans here
    · exact fun _ => isOut
    · intro unsent
      obtain ⟨_, _, same⟩ := unsent (.sent none) sent
      cases same
    · exact fun h reaches' apart => Scene.Reaches.of_residents (Scene.Reaches.post reaches' apart) rfl
    · exact sent.trans sent'.symm
    · intro outcome same
      cases sent.symm.trans same

end
end FlowRuntime.Rehearsal
