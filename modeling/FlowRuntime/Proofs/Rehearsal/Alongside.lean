import FlowRuntime.Proofs.Rehearsal.Abreast

/-!
A request in two scenes that are alike. Driven on, it makes the same calls in both, and comes
to the same answer or waits for the same. We verify this for all that a run may do about it,
as long as it asks only those whom it holds, and that whoever waits is cued whenever the call
may go on.
-/
namespace FlowRuntime.Rehearsal

variable {α : Type} {after : List Handle → Run → α → Prop} {held : List Handle}
  {s s' n n' : Scene} {place : Nat}

def Call.IsSingle : Call → Prop
  | .fanOut _ _ => False
  | _ => True

/-! ### What is waited for -/

def Undertaking.Due (s : Scene) (u : Undertaking α) (time : Nat) : Prop :=
  match u.call with
  | .fanOut _ _ => s.FanDue time
  | _ => u.fate.delay = some time

def Undertaking.IsRipe (s : Scene) (u : Undertaking α) : Prop :=
  match u.call with
  | .fanOut _ _ => s.AllKnown
  | _ => False

/-- Whoever is asked by a call that is under way can be, and so it will be thereafter. -/
def Minded (after : List Handle → Run → α → Prop) (s : Scene) : Undertaking α → Prop
  | ⟨.fanOut op targets, _, resume⟩ => ∃ held, Courteous op targets held s ∧
      s.errands.size = targets.length ∧ ∀ report, (resume report).Minds after held
  | ⟨call, _, resume⟩ => ∃ held, s.IsFree held ∧
      ∀ answer, call.IsFresh held answer → (resume answer).Minds after (call.heldAfter held answer)

/-- How a request stands when it goes no further: it waits, and is cued, or it has been answered. -/
def Standing (after : List Handle → Run → α → Prop) (place : Nat) (s : Scene) :
    Undertaking α ⊕ α → Prop
  | .inl u => Minded after s u ∧ ¬ u.IsRipe s ∧
      ∀ time, u.Due s time → s.now < time ∧ ⟨time, .part place⟩ ∈ s.cues
  | .inr x => ∃ held, s.IsFree held ∧ after held s.run x

/-- The same has become of a request in two scenes. -/
structure Alongside (after : List Handle → Run → α → Prop) (place : Nat)
    (now now' : Scene × (Undertaking α ⊕ α)) : Prop where
  same : now'.2 = now.2
  tandem : Tandem now.1 now'.1
  standing : Standing after place now.1 now.2

theorem Scene.IsFree.same (free : s.IsFree held) (residents : s'.world.residents = s.world.residents)
    (errands : s'.errands = s.errands) : s'.IsFree held where
  reaches h mem := (free.reaches h mem).of_residents residents
  known := by
    rw [Scene.AllKnown, errands]
    intro i within
    obtain ⟨outcome, known⟩ := free.known i within
    exact ⟨outcome, errands ▸ known⟩

/-! ### Single calls -/

theorem Tandem.see (tandem : Tandem s n) (run : Run) : Tandem (s.see run) (n.see run) := by
  have taken : Tandem { s with run := run } { n with run := run } := by
    obtain ⟨alike, paced, orderly, roused⟩ := tandem
    obtain ⟨⟨_, _, _, _, _, _, _, rfl⟩, errands, size, ahead⟩ := alike
    refine ⟨⟨⟨_, _, _, _, _, _, _, rfl⟩, errands, size, fun h r r' found found' =>
      ⟨(ahead h r r' found found').mustStop, (ahead h r r' found found').mail⟩⟩,
      paced.follow rfl rfl rfl rfl, ⟨orderly.going, orderly.past, orderly.posted, orderly.single⟩,
      ⟨roused.mailed, roused.called⟩⟩
  have woken : Attentive { s with run := run } (s.see run) := by
    have seen := (Livelier.see s run).toAttentive
    exact ⟨seen.residents, seen.turn, seen.called, seen.stirred⟩
  have paced : Paced (s.see run) (n.see run) := by
    obtain ⟨_, _, same⟩ := see_frame s run
    obtain ⟨_, _, same'⟩ := see_frame n run
    rw [same, same']
    exact tandem.paced.follow rfl rfl rfl rfl
  exact taken.noise (.see s run) (.see n run) paced woken

theorem Tandem.assign (tandem : Tandem s n) (p : Partitioner) :
    Tandem { s with world.partitioner := p } { n with world.partitioner := p } := by
  obtain ⟨alike, paced, orderly, roused⟩ := tandem
  obtain ⟨⟨_, _, _, _, _, _, _, rfl⟩, errands, size, ahead⟩ := alike
  exact ⟨⟨⟨_, _, _, _, _, _, _, rfl⟩, errands, size, fun h r r' found found' =>
    ⟨(ahead h r r' found found').mustStop, (ahead h r r' found found').mail⟩⟩,
    paced.follow rfl rfl rfl rfl, ⟨orderly.going, orderly.past, orderly.posted, orderly.single⟩, ⟨roused.mailed, roused.called⟩⟩

theorem Tandem.settle (tandem : Tandem s n) (i : LocalInstance) :
    Tandem
      ({ s with world.residents := s.world.residents.push ⟨i, [], true, false⟩ }.wake
        (.resident s.world.residents.size))
      ({ n with world.residents := n.world.residents.push ⟨i, [], true, false⟩ }.wake
        (.resident n.world.residents.size)) := by
  obtain ⟨alike, paced, orderly, roused⟩ := tandem
  have size := alike.size
  obtain ⟨⟨_, _, _, _, _, _, _, rfl⟩, errands, _, ahead⟩ := alike
  have looked (residents : Array Resident) (h : Handle) (r : Resident)
      (found : (residents.push ⟨i, [], true, false⟩)[h]? = some r) :
      (h = residents.size ∧ r = ⟨i, [], true, false⟩) ∨ residents[h]? = some r := by
    exact (getElem?_push_cases found).imp_right And.right
  have older (h : Handle) (r : Resident) (l : Letter)
      (found : (s.world.residents.push ⟨i, [], true, false⟩)[h]? = some r) (mem : l ∈ r.mail) :
      s.world.residents[h]? = some r := by
    rcases looked _ h r found with ⟨_, rfl⟩ | before
    · cases mem
    · exact before
  refine ⟨⟨⟨_, _, _, _, _, _, _, rfl⟩, errands, ?_, ?_⟩, paced.follow rfl rfl rfl rfl, ?_, ?_⟩
  · simpa [Scene.wake] using size
  · intro h r r' found found'
    rcases looked _ h r found with ⟨here, rfl⟩ | before
    · rcases looked _ h r' found' with ⟨_, rfl⟩ | before'
      · exact ⟨rfl, [], rfl, rfl, by simp⟩
      · have within := Nat.lt_of_lt_of_eq (Array.getElem?_eq_some_iff.mp before').1 size
        exact absurd (here ▸ within) (Nat.lt_irrefl _)
    · rcases looked _ h r' found' with ⟨here, _⟩ | before'
      · have within := Nat.lt_of_lt_of_eq (Array.getElem?_eq_some_iff.mp before).1 size.symm
        exact absurd (here ▸ within) (Nat.lt_irrefl _)
      · exact ⟨(ahead h r r' before before').mustStop, (ahead h r r' before before').mail⟩
  · constructor
    · intro h r found
      rcases looked _ h r found with ⟨_, rfl⟩ | before
      · rfl
      · exact orderly.going h r before
    · exact fun h r found l mem => orderly.past h r (older h r l found mem) l mem
    · exact fun h r found l mem => orderly.posted h r (older h r l found mem) l mem
    · exact fun h h' r r' found found' l mem l' mem' =>
        orderly.single h h' r r' (older h r l found mem) (older h' r' l' found' mem') l mem l' mem'
  · constructor
    · intro h r found mail
      rcases looked _ h r found with ⟨_, rfl⟩ | before
      · exact absurd rfl mail
      · exact roused.mailed h r before mail
    · intro h r found called
      rcases looked _ h r found with ⟨rfl, _⟩ | before
      · exact wake_called _ _
      · exact (Livelier.wake _ _).called _ (roused.called h r before called)

theorem Scene.IsFree.settle (free : s.IsFree held) (i : LocalInstance) (p : Player) :
    s.world.residents.size ∉ held ∧
      ({ s with world.residents := s.world.residents.push ⟨i, [], true, false⟩ }.wake p).IsFree
        (s.world.residents.size :: held) := by
  have known (h : Handle) (mem : h ∈ held) : h < s.world.residents.size := by
    obtain ⟨r, found, _⟩ := free.reaches h mem
    exact (Array.getElem?_eq_some_iff.mp found).1
  have woken := Livelier.wake
    { s with world.residents := s.world.residents.push ⟨i, [], true, false⟩ } p
  refine ⟨fun mem => Nat.lt_irrefl _ (known _ mem), ?_⟩
  refine Scene.IsFree.same (s := { s with
    world.residents := s.world.residents.push ⟨i, [], true, false⟩ }) ⟨?_, free.known⟩
    woken.residents woken.errands
  intro h mem
  rcases List.mem_cons.mp mem with rfl | before
  · exact ⟨⟨i, [], true, false⟩, by simp, by simp⟩
  · obtain ⟨r, found, unasked⟩ := free.reaches h before
    refine ⟨r, ?_, unasked⟩
    rw [Array.getElem?_push, if_neg (Nat.ne_of_lt (known h before)), found]

theorem answer?_single {call : Call} (tandem : Tandem s n) (free : s.IsFree held)
    (single : Call.IsSingle call) (fate : Fate) :
    (n.answer? fate call).2 = (s.answer? fate call).2 ∧
      Tandem (s.answer? fate call).1 (n.answer? fate call).1 ∧
      ((s.answer? fate call).2 = none → (s.answer? fate call).1 = s ∧ s.isUp fate.delay = false) ∧
      ∀ answer, (s.answer? fate call).2 = some answer →
        call.IsFresh held answer ∧ (s.answer? fate call).1.IsFree (call.heldAfter held answer) := by
  have partitioner : n.world.partitioner = s.world.partitioner := by
    obtain ⟨_, _, _, _, _, _, _, rfl⟩ := tandem.alike.frame
    rfl
  have assigned (p : Partitioner) := tandem.assign p
  cases call with
  | fanOut op targets => exact single.elim
  | bind groups | repartition group =>
    simp only [Scene.answer?, Scene.single?, tandem.isUp]
    split
    · rename_i early
      exact ⟨rfl, tandem, fun _ => ⟨rfl, by simpa using early⟩, by simp⟩
    · split
      · exact ⟨rfl, tandem, by simp, fun answer _ => ⟨trivial, free⟩⟩
      · simp only [World.bind, World.repartition, partitioner]
        exact ⟨trivial, assigned _, by simp, fun answer _ => ⟨trivial, free.same rfl rfl⟩⟩
  | start options =>
    have dark (s : Scene) : s.greet s.world.residents.size = s := by simp [Scene.greet]
    simp only [Scene.answer?, Scene.single?, tandem.isUp]
    split
    · rename_i early
      simp only [dark]
      exact ⟨trivial, tandem, fun _ => ⟨trivial, by simpa using early⟩, by simp⟩
    · split
      · simp only [dark]
        refine ⟨trivial, tandem, by simp, ?_⟩
        rintro answer ⟨⟩
        exact ⟨trivial, free⟩
      · simp only [World.start]
        split
        · simp only [dark]
          refine ⟨trivial, tandem, by simp, ?_⟩
          rintro answer ⟨⟩
          exact ⟨trivial, free⟩
        · rename_i i _
          have settled := tandem.settle i
          obtain ⟨fresh, free'⟩ := free.settle i (.resident s.world.residents.size)
          simp only [Scene.greet, Array.size_push, Nat.lt_succ_self, if_true]
          refine ⟨by rw [tandem.alike.size], settled, by simp, ?_⟩
          rintro answer ⟨⟩
          exact ⟨fresh, free'⟩

theorem Call.IsSingle.begins {call : Call} (single : Call.IsSingle call) (place : Nat) :
    ∃ logged, ∀ s : Scene, s.beginCall place call = s.beginSingle place logged := by
  cases call with
  | fanOut op targets => exact single.elim
  | bind groups => exact ⟨.bind groups, fun _ => rfl⟩
  | repartition group => exact ⟨.repartition group, fun _ => rfl⟩
  | start options => exact ⟨.start options, fun _ => rfl⟩

theorem beginSingle_alongside (tandem : Tandem s n) (free : s.IsFree held) (place : Nat)
    (call : LoggedCall) :
    (n.beginSingle place call).2 = (s.beginSingle place call).2 ∧
      Tandem (s.beginSingle place call).1 (n.beginSingle place call).1 ∧
      (s.beginSingle place call).1.IsFree held ∧
      ∀ time, (s.beginSingle place call).2.delay = some time → s.now < time →
        ⟨time, .part place⟩ ∈ (s.beginSingle place call).1.cues := by
  have begins (s : Scene) : s.beginSingle place call =
      ({ s with world := (s.world.meet call).1 }.cueAt (s.dueOf call) place,
        ⟨s.dueOf call, (s.world.meet call).2.failure⟩) := rfl
  obtain ⟨fates, met⟩ := tandem.meet call
  rw [begins, begins, tandem.dueOf, fates]
  refine ⟨rfl, met.cueAt _ _, ?_, ?_⟩
  · obtain ⟨errands, residents, _⟩ :=
      cueAt_still { s with world := (s.world.meet call).1 } (s.dueOf call) place
    exact free.same residents errands
  · intro time due later
    dsimp only at due ⊢
    rw [due]
    exact mem_cueAt (s := { s with world := (s.world.meet call).1 }) later place

/-! ### Fan-outs -/

theorem heldAfter_fanOut (held : List Handle) (op : InstanceOp) (targets : List (StageKey × Handle))
    (report report' : Report StageKey) :
    Call.heldAfter held (.fanOut op targets) report =
      Call.heldAfter held (.fanOut op targets) report' := by cases op <;> rfl

theorem fanned_opened {op : InstanceOp} {targets : List (StageKey × Handle)} (tandem : Tandem s n)
    (free : s.IsFree held) (within : (Call.fanOut op targets).Within held)
    (report : Report StageKey) (place : Nat) :
    Fanned op targets (Call.heldAfter held (.fanOut op targets) report) place 0
      { s with round := s.round + 1, since := s.now, errands := #[] }
      { n with round := n.round + 1, since := n.now, errands := #[] } where
  tandem := tandem.openRound
  courteous := {
    apart := within.1
    leaving := by
      rintro rfl t mem among
      simp only [Call.heldAfter, List.mem_filter, decide_eq_true_eq] at among
      exact among.2 (List.mem_map_of_mem mem)
    reaches := by
      intro h mem
      refine (free.reaches h ?_).of_residents rfl
      cases op with
      | stop => exact List.mem_of_mem_filter mem
      | suspend | resume | command => exact mem
    unsent := fun _ t listed _ =>
      (free.reaches t.2 (within.2 t (List.mem_of_getElem? listed))).of_residents rfl }
  cued := by
    rintro time (⟨j, failure, stands⟩ | ⟨⟨j, out⟩, _⟩)
    · simp at stands
    · simp [Scene.isOut] at out
  size := rfl

theorem Fanned.answer {op : InstanceOp} {targets : List (StageKey × Handle)}
    (fanned : Fanned op targets held place targets.length s n) (fate : Fate)
    {resume : Report StageKey → Activity α} (minds : ∀ report, (resume report).Minds after held) :
    (n.answer? fate (.fanOut op targets)).2 = (s.answer? fate (.fanOut op targets)).2 ∧
      Tandem (s.answer? fate (.fanOut op targets)).1 (n.answer? fate (.fanOut op targets)).1 ∧
      ((s.answer? fate (.fanOut op targets)).2 = none →
        Standing after place (s.answer? fate (.fanOut op targets)).1
          (.inl ⟨.fanOut op targets, fate, resume⟩)) ∧
      ∀ report, (s.answer? fate (.fanOut op targets)).2 = some report →
        (s.answer? fate (.fanOut op targets)).1.IsFree held := by
  have spares : Spares (fun _ => True) (.part place) s (s.attendErrands op targets) := .attendErrands s op targets
  obtain ⟨fanned', errands, later, known⟩ := fanned.attendErrands
  simp only [Scene.answer?]
  refine ⟨by rw [Scene.report?, Scene.report?, errands], fanned'.tandem, ?_, ?_⟩
  · intro pending
    refine ⟨⟨held, fanned'.courteous, fanned'.size, minds⟩, ?_, ?_⟩
    · intro ripe
      have reported := known.mp ripe
      rw [pending] at reported
      cases reported
    · intro time due
      have late : (s.attendErrands op targets).now < time := spares.now ▸ later time due
      exact ⟨late, fanned'.cued time due late⟩
  · intro report reported
    exact ⟨fanned'.courteous.reaches, known.mpr (by rw [reported]; rfl)⟩

/-! ### Going on -/

theorem Scene.IsFree.see (free : s.IsFree held) (run : Run) : (s.see run).IsFree held :=
  free.same (Unmoved.see s run).residents (Unmoved.see s run).errands

theorem alongside_follow {call : Call} {fate : Fate} {resume : call.Answer → Activity α}
    {now now' : Scene × Option call.Answer} (same : now'.2 = now.2) (tandem : Tandem now.1 now'.1)
    (pending : now.2 = none → Standing after place now.1 (.inl ⟨call, fate, resume⟩))
    (answered : ∀ answer, now.2 = some answer →
      ∃ held, now.1.IsFree held ∧ (resume answer).Minds after held)
    (onward : ∀ answer (held : List Handle) (s n : Scene), Tandem s n → s.IsFree held →
      (resume answer).Minds after held →
      Alongside after place (s.drive place (resume answer)) (n.drive place (resume answer))) :
    Alongside after place (Scene.follow place call fate resume now)
      (Scene.follow place call fate resume now') := by
  obtain ⟨s, answer⟩ := now
  obtain ⟨n, answer'⟩ := now'
  dsimp only at same tandem pending answered
  subst same
  cases answer' with
  | none => exact ⟨rfl, tandem, pending rfl⟩
  | some answer =>
    obtain ⟨held, free, minds⟩ := answered answer rfl
    refine onward answer held _ _ ?_ (free.same rfl rfl) minds
    exact tandem.noise (.dropCues s _) (.dropCues n _) (tandem.paced.dropCues _) ⟨rfl, rfl, fun _ => id, fun _ => id⟩

theorem alongside_single {call : Call} {resume : call.Answer → Activity α}
    (single : Call.IsSingle call) (tandem : Tandem s n) (free : s.IsFree held)
    (minds : ∀ answer, call.IsFresh held answer →
      (resume answer).Minds after (call.heldAfter held answer))
    (onward : ∀ answer (held : List Handle) (s n : Scene), Tandem s n → s.IsFree held →
      (resume answer).Minds after held →
      Alongside after place (s.drive place (resume answer)) (n.drive place (resume answer))) :
    Alongside after place
      (Scene.follow place call (s.beginCall place call).2 resume
        ((s.beginCall place call).1.answer? (s.beginCall place call).2 call))
      (Scene.follow place call (n.beginCall place call).2 resume
        ((n.beginCall place call).1.answer? (n.beginCall place call).2 call)) := by
  obtain ⟨logged, begins⟩ := Call.IsSingle.begins single place
  obtain ⟨fates, begun, free₁, cued⟩ := beginSingle_alongside tandem free place logged
  have spares : Spares (fun _ => True) (.part place) s (s.beginSingle place logged).1 := .beginSingle _ _ _
  rw [begins, begins, fates]
  generalize (s.beginSingle place logged).2 = fate at cued ⊢
  generalize (s.beginSingle place logged).1 = s₁ at begun free₁ cued spares ⊢
  generalize (n.beginSingle place logged).1 = n₁ at begun ⊢
  obtain ⟨same, answered, pending, fresh⟩ := answer?_single begun free₁ single fate
  refine alongside_follow same answered ?_ ?_ onward
  · intro none
    obtain ⟨unmoved, early⟩ := pending none
    rw [unmoved]
    have later (time : Nat) (due : fate.delay = some time) :
        s₁.now < time ∧ ⟨time, .part place⟩ ∈ s₁.cues := by
      rw [due] at early
      have late : s₁.now < time := by simpa [Scene.isUp] using early
      exact ⟨late, cued time due (spares.now ▸ late)⟩
    cases call with
    | fanOut op targets => exact single.elim
    | bind groups => exact ⟨⟨held, free₁, minds⟩, id, later⟩
    | repartition group => exact ⟨⟨held, free₁, minds⟩, id, later⟩
    | start options => exact ⟨⟨held, free₁, minds⟩, id, later⟩
  · intro answer here
    obtain ⟨isFresh, free₂⟩ := fresh answer here
    exact ⟨_, free₂, minds answer isFresh⟩

theorem alongside_fanOut {op : InstanceOp} {targets : List (StageKey × Handle)}
    {resume : Report StageKey → Activity α} (tandem : Tandem s n) (free : s.IsFree held)
    (within : (Call.fanOut op targets).Within held)
    (minds : ∀ report : Report StageKey,
      (resume report).Minds after ((Call.fanOut op targets).heldAfter held report))
    (onward : ∀ report (held : List Handle) (s n : Scene), Tandem s n → s.IsFree held →
      (resume report).Minds after held →
      Alongside after place (s.drive place (resume report)) (n.drive place (resume report))) :
    Alongside after place
      (Scene.follow place (.fanOut op targets) (s.beginCall place (.fanOut op targets)).2 resume
        ((s.beginCall place (.fanOut op targets)).1.answer?
          (s.beginCall place (.fanOut op targets)).2 (.fanOut op targets)))
      (Scene.follow place (.fanOut op targets) (n.beginCall place (.fanOut op targets)).2 resume
        ((n.beginCall place (.fanOut op targets)).1.answer?
          (n.beginCall place (.fanOut op targets)).2 (.fanOut op targets))) := by
  have begun := (fanned_opened tandem free within ⟨[], []⟩ place).startAll targets rfl (Nat.zero_le _)
  have minds' (report : Report StageKey) :
      (resume report).Minds after ((Call.fanOut op targets).heldAfter held ⟨[], []⟩) := by
    rw [heldAfter_fanOut held op targets _ report]
    exact minds report
  obtain ⟨same, answered, pending, free₁⟩ := begun.answer .unharmed minds'
  exact alongside_follow same answered pending
    (fun report here => ⟨_, free₁ report here, minds' report⟩) onward

theorem alongside_drive (a : Activity α) (tandem : Tandem s n) (free : s.IsFree held)
    (minds : a.Minds after held) :
    Alongside after place (s.drive place a) (n.drive place a) := by
  induction a generalizing s n held with
  | done run x =>
    refine ⟨rfl, tandem.see run, held, free.see run, ?_⟩
    rw [Scene.drive, (Aloof.see s run).run]
    exact minds
  | waiting run call resume ih =>
    obtain ⟨within, minds⟩ := minds
    have onward (answer : call.Answer) (held : List Handle) (s n : Scene) (tandem : Tandem s n)
        (free : s.IsFree held) (minds : (resume answer).Minds after held) := ih answer tandem free minds
    rw [Scene.drive_waiting, Scene.drive_waiting]
    by_cases single : Call.IsSingle call
    · exact alongside_single single (tandem.see run) (free.see run) minds onward
    · cases call with
      | bind | repartition | start => exact absurd trivial single
      | fanOut op targets =>
        exact alongside_fanOut (tandem.see run) (free.see run) within
          (fun report => minds report trivial) onward

theorem alongside_goOn {u : Undertaking α} (tandem : Tandem s n) (minded : Minded after s u)
    (cued : ∀ time, u.Due s time → s.now < time → ⟨time, .part place⟩ ∈ s.cues) :
    Alongside after place (s.goOn place u) (n.goOn place u) := by
  obtain ⟨call, fate, resume⟩ := u
  rw [Scene.goOn_eq, Scene.goOn_eq]
  by_cases single : Call.IsSingle call
  · obtain ⟨held, free, minds⟩ : ∃ held, s.IsFree held ∧ ∀ answer, call.IsFresh held answer →
        (resume answer).Minds after (call.heldAfter held answer) := by
      cases call with
      | fanOut op targets => exact single.elim
      | bind | repartition | start => exact minded
    obtain ⟨same, answered, pending, fresh⟩ := answer?_single tandem free single fate
    refine alongside_follow same answered ?_ ?_ fun answer _ _ _ t f m => alongside_drive _ t f m
    · intro none
      obtain ⟨unmoved, early⟩ := pending none
      rw [unmoved]
      have ripe : ¬ Undertaking.IsRipe s ⟨call, fate, resume⟩ := by
        cases call with
        | fanOut op targets => exact single.elim
        | bind | repartition | start => exact id
      refine ⟨minded, ripe, ?_⟩
      intro time due
      have late : s.now < time := by
        have here : fate.delay = some time := by
          cases call with
          | fanOut op targets => exact single.elim
          | bind | repartition | start => exact due
        rw [here] at early
        simpa [Scene.isUp] using early
      exact ⟨late, cued time due late⟩
    · intro answer here
      obtain ⟨isFresh, free'⟩ := fresh answer here
      exact ⟨_, free', minds answer isFresh⟩
  · cases call with
    | bind | repartition | start => exact absurd trivial single
    | fanOut op targets =>
      obtain ⟨held, courteous, size, minds⟩ := minded
      have fanned : Fanned op targets held place targets.length s n := ⟨tandem, courteous, cued, size⟩
      obtain ⟨same, answered, pending, free⟩ := fanned.answer fate minds
      refine alongside_follow same answered pending ?_ fun answer _ _ _ t f m => alongside_drive _ t f m
      intro report here
      exact ⟨held, free report here, minds report⟩

end FlowRuntime.Rehearsal
