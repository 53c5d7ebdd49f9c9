import FlowRuntime.Proofs.Rehearsal.Prompt
import FlowRuntime.Proofs.Rehearsal.Rehearsed

/-!
Rehearsals as they are played. A part drives the activity of its request as far as it can, is
seen to whenever it has been woken, and after the step all that is left goes on until
nothing is. We verify that whoever plays a plan goes through rehearsed scenes: from its
start to the first interval, and from each interval to the next.
-/
namespace FlowRuntime.Rehearsal

section
variable {α β : Type} {calm : Prop} {place : Nat} {s₀ s s' : Scene}

/-! ### Driving -/

theorem Staged.unmap {a : Activity α} {f : α → β} {log : List Exchange} {b' : Activity β}
    {fate : Option Fate}
    (staged : Staged calm (a.bind fun run x => .done run (f x)) s₀ log b' fate s) :
    ∃ b, b' = b.bind (fun run x => .done run (f x)) ∧ Staged calm a s₀ log b fate s := by
  induction staged with
  | opened => exact ⟨a, rfl, .opened⟩
  | begun before place ih =>
    obtain ⟨b, same, staged⟩ := ih
    cases b with
    | done run x => cases same
    | waiting run call resume =>
      cases same
      exact ⟨_, rfl, staged.begun place⟩
  | looked before pending ih =>
    obtain ⟨b, same, staged⟩ := ih
    cases b with
    | done run x => cases same
    | waiting run call resume =>
      cases same
      exact ⟨_, rfl, staged.looked pending⟩
  | answered before given ih =>
    obtain ⟨b, same, staged⟩ := ih
    cases b with
    | done run x => cases same
    | waiting run call resume =>
      cases same
      exact ⟨_, rfl, staged.answered given⟩
  | meanwhile before step ih =>
    obtain ⟨b, same, staged⟩ := ih
    exact ⟨b, same, staged.meanwhile step⟩
  | passed before time idle ih =>
    obtain ⟨b, same, staged⟩ := ih
    exact ⟨b, same, staged.passed time idle⟩

/-- A call that is waited for when all is calm is a fan-out, and somebody will go on about it. -/
structure Awaited (place : Nat) (call : Call) (s : Scene) : Prop where
  fanOut : ∃ op targets, call = .fanOut op targets
  roused : Roused s
  expectant : Expectant place s

/-- How far a part has driven an activity. -/
def Driven (calm : Prop) (place : Nat) (a : Activity α) (s₀ s : Scene) :
    Undertaking α ⊕ α → Prop
  | .inl u => ∃ log run, Staged calm a s₀ log (.waiting run u.call u.resume) (some u.fate) s ∧
      (calm → Awaited place u.call s)
  | .inr x => ∃ log run before, Staged calm a s₀ log (.done run x) none before ∧
      s = before.see run ∧ (calm → Ready place s)

theorem attentive_dropCues (s : Scene) (p : Player) : Attentive s (s.dropCues p) :=
  ⟨rfl, rfl, fun _ => id, fun _ => id⟩

theorem driven_drive {a b : Activity α} {log : List Exchange}
    (staged : Staged calm a s₀ log b none s) (ready : calm → Ready place s) :
    Driven calm place a s₀ (s.drive place b).1 (s.drive place b).2 := by
  induction b generalizing log s with
  | done run x =>
    exact ⟨log, run, s, staged, rfl, fun still =>
      (ready still).attentive (Livelier.see s run).toAttentive (Unmoved.see s run).toFramed⟩
  | waiting run call resume ih =>
    have begun := staged.begun place
    have onward (still : calm) := ready_call
      ((ready still).attentive (Livelier.see s run).toAttentive (Unmoved.see s run).toFramed) call
    unfold Scene.drive
    dsimp only
    generalize (s.see run).beginCall place call = started at begun onward
    obtain ⟨s₁, fate⟩ := started
    dsimp only at begun onward ⊢
    cases given : (s₁.answer? fate call).2 with
    | none =>
      rw [show s₁.answer? fate call = ((s₁.answer? fate call).1, none) by rw [← given]]
      refine ⟨log, run, begun.looked given, fun still => ?_⟩
      obtain ⟨ready', waits⟩ := onward still
      obtain ⟨⟨op, targets, rfl⟩, quiet⟩ := waits given
      exact ⟨⟨op, targets, rfl⟩, ready'.roused, ready'.turn, quiet.keen place, out_of_report given⟩
    | some answer =>
      rw [show s₁.answer? fate call = ((s₁.answer? fate call).1, some answer) by rw [← given]]
      refine ih answer ((begun.answered given).meanwhile (.reordered (.dropCues _ (.part place)))) ?_
      intro still
      exact (onward still).1.attentive (attentive_dropCues _ _)
        (Unmoved.ofReordered (.dropCues _ _)).toFramed

theorem driven_goOn {a : Activity α} {u : Undertaking α} (fit : Fit calm s₀)
    (addressed : Addressed calm s₀.world a) (driven : Driven calm place a s₀ s (.inl u)) :
    Driven calm place a s₀ ((s.unstir place).goOn place u).1 ((s.unstir place).goOn place u).2 := by
  obtain ⟨call, fate, resume⟩ := u
  obtain ⟨log, run, staged, awaited⟩ := driven
  have unstirred : Reordered s (s.unstir place) := ⟨_, _, _, _, _, _, _, rfl⟩
  replace staged := staged.meanwhile (.reordered unstirred)
  obtain ⟨v, _, attended⟩ := staged.underway fit addressed
  have onward (still : calm) :
      Ready place ((s.unstir place).answer? fate call).1 ∧
        (((s.unstir place).answer? fate call).2 = none →
          Awaited place call ((s.unstir place).answer? fate call).1) := by
    obtain ⟨⟨op, targets, rfl⟩, roused, expectant⟩ := awaited still
    obtain ⟨flight, count⟩ := attended
    obtain ⟨ready, quiet⟩ := ready_attended (flight.calm still)
      ⟨roused.mailed, roused.called⟩ expectant.turn op count
      fun j e stands => (expectant.keen j e stands).imp_right (·.1)
    exact ⟨ready, fun given =>
      ⟨⟨op, targets, rfl⟩, ready.roused, ready.turn, quiet.keen place, out_of_report given⟩⟩
  unfold Scene.goOn
  dsimp only
  generalize s.unstir place = s₁ at staged onward
  cases given : (s₁.answer? fate call).2 with
  | none =>
    rw [show s₁.answer? fate call = ((s₁.answer? fate call).1, none) by rw [← given]]
    exact ⟨log, run, staged.looked given, fun still => (onward still).2 given⟩
  | some answer =>
    rw [show s₁.answer? fate call = ((s₁.answer? fate call).1, some answer) by rw [← given]]
    refine driven_drive
      ((staged.answered given).meanwhile (.reordered (.dropCues _ (.part place)))) ?_
    intro still
    exact (onward still).1.attentive (attentive_dropCues _ _)
      (Unmoved.ofReordered (.dropCues _ _)).toFramed

/-! ### Rounds -/

theorem meanwhile_workRound (s : Scene) (turns : Nat) :
    Relation.ReflTransGen Meanwhile s (s.workRound turns) := by
  apply Scene.workRound_induction (P := Relation.ReflTransGen Meanwhile s) .refl
  intro s' next rest _ steps
  have taken : Reordered s' { s' with called := rest } := ⟨_, _, _, _, _, _, _, rfl⟩
  have onward := steps.tail (.reordered taken)
  cases next with
  | part place => exact onward
  | resident handle => exact onward.tail (.read _ handle)
  | listener i => exact onward.tail (.heard _ i)

theorem Staged.workRound {a b : Activity α} {log : List Exchange} {fate : Option Fate}
    (staged : Staged calm a s₀ log b fate s) (turns : Nat) :
    Staged calm a s₀ log b fate (s.workRound turns) := by
  have steps := meanwhile_workRound s turns
  generalize s.workRound turns = s' at steps ⊢
  induction steps with
  | refl => exact staged
  | tail before step ih => exact ih.meanwhile step

theorem Staged.advance {a b : Activity α} {log : List Exchange} {fate : Option Fate}
    (staged : Staged calm a s₀ log b fate s) (time : Nat) (idle : calm → fate = none) :
    Staged calm a s₀ log b fate (s.advance time) := by
  refine (staged.passed time idle).meanwhile (.reordered ?_)
  have cued : Reordered { s with now := time }
      { s with now := time, cues := s.cues.filter (time < ·.time) } := ⟨_, _, _, _, _, _, _, rfl⟩
  exact cued.trans (.wakeAll _ _)

/-- How far a part has come that plays an activity. -/
def Acting (calm : Prop) (place : Nat) (a : Activity Finding) (s₀ s : Scene) : Act → Prop
  | .calling u => Driven calm place a s₀ s (.inl u)
  | .ended _ finding => ∃ log run before, Staged calm a s₀ log (.done run finding) none before ∧
      Reordered (before.see run) s ∧ (calm → Roused s)
  | _ => False

theorem acting_settleCall {a : Activity Finding} {now : Scene × (Undertaking Finding ⊕ Finding)}
    (driven : Driven calm place a s₀ now.1 now.2) :
    Acting calm place a s₀ (Scene.settleCall now).1 (Scene.settleCall now).2 := by
  obtain ⟨s, u | finding⟩ := now
  · exact driven
  · obtain ⟨log, run, before, staged, rfl, ready⟩ := driven
    refine ⟨log, run, before, staged, .passTurn _, fun still => ?_⟩
    have roused := (ready still).roused
    change Roused (before.see run).passTurn
    unfold Scene.passTurn
    split
    · exact ⟨roused.mailed, roused.called⟩
    · rename_i next rest _
      refine Roused.attentive (s := { before.see run with turn := some next, line := rest })
        ⟨roused.mailed, roused.called⟩ (Livelier.wake _ _).toAttentive

section
variable {a : Activity Finding} {act : Act} (fit : Fit calm s₀) (addressed : Addressed calm s₀.world a)
include fit addressed

theorem Acting.seeTo (acting : Acting calm place a s₀ s act) :
    Acting calm place a s₀ ((s.unstir place).seeTo place act).1
      ((s.unstir place).seeTo place act).2 := by
  cases act with
  | calling u => exact acting_settleCall (driven_goOn fit addressed acting)
  | ended time finding =>
    obtain ⟨log, run, before, staged, reordered, roused⟩ := acting
    refine ⟨log, run, before, staged, reordered.trans ⟨_, _, _, _, _, _, _, rfl⟩, fun still => ?_⟩
    exact ⟨(roused still).mailed, (roused still).called⟩
  | ahead | waiting | inLine | resting | joining => exact acting.elim

theorem Acting.round {u : Undertaking Finding} (acting : Acting calm place a s₀ s (.calling u))
    (turns time : Nat) :
    Acting calm place a s₀ (if (s.workRound turns).isBusy then s.workRound turns
      else (s.workRound turns).advance time) (.calling u) := by
  obtain ⟨call, fate, resume⟩ := u
  obtain ⟨log, run, staged, awaited⟩ := acting
  have worked := staged.workRound turns
  have kept (still : calm) : Awaited place call (s.workRound turns) :=
    ⟨(awaited still).fanOut, (awaited still).roused.workRound turns,
      (awaited still).expectant.workRound turns⟩
  split
  · exact ⟨log, run, worked, kept⟩
  · rename_i idle
    have restless : ¬ calm := by
      intro still
      obtain ⟨⟨op, targets, rfl⟩, roused, expectant⟩ := kept still
      obtain ⟨v, _, flight, count⟩ := worked.underway fit addressed
      exact idle (flight.busy count roused expectant)
    exact ⟨log, run, worked.advance time fun still => absurd still restless,
      fun still => absurd still restless⟩

theorem playRounds_acting (rounds : Nat) (act : Act)
    (seen : Acting calm place a s₀ ((s.unstir place).seeTo place act).1
      ((s.unstir place).seeTo place act).2) :
    ∃ act' s', Scene.playRounds (rounds + 1) (.solo place act) s = (.solo place act', s') ∧
      Acting calm place a s₀ s' act' := by
  induction rounds using Nat.strong_induction_on generalizing s act with
  | _ rounds ih =>
  have rest (s₁ : Scene) (u : Undertaking Finding) (acting : Acting calm place a s₀ s₁ (.calling u)) :
      ∃ act' s', Scene.playRounds rounds (.solo place (.calling u)) s₁ = (.solo place act', s') ∧
        Acting calm place a s₀ s' act' := by
    cases rounds with
    | zero => exact ⟨_, _, rfl, acting⟩
    | succ rounds => exact ih rounds (Nat.lt_succ_self _) _ (acting.seeTo fit addressed)
  unfold Scene.playRounds
  simp only [Part.depth, Part.seeTo]
  generalize (s.unstir place).seeTo place act = now at seen
  obtain ⟨s₁, act₁⟩ := now
  split
  · exact ⟨_, _, rfl, seen⟩
  · rename_i unended
    cases act₁ with
    | calling u =>
      have later := Acting.round fit addressed seen Scene.turnsInRound
      dsimp only at later ⊢
      split
      · rename_i busy
        simp only [busy, if_true] at later
        exact rest _ u (later 0)
      · rename_i idle
        simp only [idle] at later
        exact rest _ u (later _)
    | ended time finding => simp [Part.result?] at unended
    | ahead | waiting | inLine | resting | joining => exact seen.elim

end

/-! ### The end of a step -/

/-- What goes on until a step has been left and nobody is left to go on. -/
inductive Lull (s : Scene) : Scene → Prop where
  | refl : Lull s s
  | meanwhile {s' s'' : Scene} (before : Lull s s') (step : Meanwhile s' s'') : Lull s s''
  | passed {s' : Scene} (before : Lull s s') (time : Nat) : Lull s { s' with now := time }
  | left {s' : Scene} (before : Lull s s') : Lull s s'.leave

theorem Lull.workRound (lull : Lull s s') (turns : Nat) : Lull s (s'.workRound turns) := by
  have steps := meanwhile_workRound s' turns
  generalize s'.workRound turns = s'' at steps ⊢
  induction steps with
  | refl => exact lull
  | tail before step ih => exact ih.meanwhile step

theorem Lull.advance (lull : Lull s s') (time : Nat) : Lull s (s'.advance time) := by
  have cued : Reordered { s' with now := time }
      { s' with now := time, cues := s'.cues.filter (time < ·.time) } := ⟨_, _, _, _, _, _, _, rfl⟩
  exact (lull.passed time).meanwhile (.reordered (cued.trans (.wakeAll _ _)))

theorem lull_settle (s : Scene) : Lull s s.settle := by
  apply Scene.settle_induction (P := Lull s) (.left .refl)
  · intro s' lull
    exact lull.workRound Scene.turnsInRound
  · intro s' time lull
    exact lull.advance time

/-! ### From one interval to the next -/

/-- Between two steps: the run has been rehearsed, nobody has its turn, and when all is calm, whoever
has mail has a turn to come. -/
structure Paused (calm : Prop) (c : RunContext) (log : List Exchange) (s : Scene) : Prop where
  rehearsed : Rehearsed calm c log s
  free : s.turn = none
  roused : calm → Roused s

theorem Rehearsed.reordered {c : RunContext} {log : List Exchange}
    (rehearsed : Rehearsed calm c log s) (reordered : Reordered s s') : Rehearsed calm c log s' :=
  rehearsed.between (.meanwhile (.reordered reordered))

theorem Rehearsed.workRound {c : RunContext} {log : List Exchange}
    (rehearsed : Rehearsed calm c log s) (turns : Nat) : Rehearsed calm c log (s.workRound turns) := by
  have steps := meanwhile_workRound s turns
  generalize s.workRound turns = s' at steps ⊢
  induction steps with
  | refl => exact rehearsed
  | tail before step ih => exact ih.between (.meanwhile step)

theorem attentive_advance (s : Scene) (time : Nat) : Attentive s (s.advance time) := by
  have passed : Attentive s { s with now := time, cues := s.cues.filter (time < ·.time) } :=
    ⟨rfl, rfl, fun _ => id, fun _ => id⟩
  exact passed.trans (Livelier.wakeAll _ _).toAttentive

section
variable {c : RunContext} {log log' : List Exchange}

theorem Paused.workRound (paused : Paused calm c log s) (turns : Nat) :
    Paused calm c log (s.workRound turns) :=
  ⟨paused.rehearsed.workRound turns, (workRound_turn s turns).trans paused.free,
    fun still => (paused.roused still).workRound turns⟩

theorem Paused.advance (paused : Paused calm c log s) (time : Nat) :
    Paused calm c log (s.advance time) := by
  have cued : Reordered { s with now := time }
      { s with now := time, cues := s.cues.filter (time < ·.time) } := ⟨_, _, _, _, _, _, _, rfl⟩
  have attentive := attentive_advance s time
  exact ⟨(paused.rehearsed.between (.passed s time)).reordered (cued.trans (.wakeAll _ _)),
    attentive.turn.trans paused.free, fun still => (paused.roused still).attentive attentive⟩

theorem paused_settle (rehearsed : Rehearsed calm c log s) (roused : calm → Roused s) :
    Paused calm c log s.settle := by
  have left : Paused calm c log s.leave :=
    ⟨rehearsed.between (.left s), rfl, fun still => ⟨(roused still).mailed, (roused still).called⟩⟩
  apply Scene.settle_induction (P := Paused calm c log) left
  · intro s' paused
    exact paused.workRound Scene.turnsInRound
  · intro s' time paused
    exact paused.advance time

theorem Paused.resume {i : Interval} (paused : Paused calm c log i.scene) :
    Paused calm c log i.resume :=
  ⟨(paused.rehearsed.between (.passed _ 0)).between (.noted _ _), paused.free,
    fun still => ⟨(paused.roused still).mailed, (paused.roused still).called⟩⟩

theorem Addressed.map {a : Activity α} {f : α → β} {w : World} (addressed : Addressed calm w a) :
    Addressed calm w (a.bind fun run x => .done run (f x)) := by
  intro log v run op targets resume leads answers
  obtain ⟨b, before, same⟩ := Activity.map_leads_iff.mp leads
  cases b with
  | done run x => cases same
  | waiting run call resume =>
    cases same
    exact addressed log v _ op targets _ before answers

theorem Paused.played {i : Interval} (accepted : c.flow.Accepted) (paused : Paused calm c log i.scene)
    (request : RunRequest) {finding : Finding}
    (found : (i.play (.one (.turn request))).2.finding = some finding) :
    ∃ s₀ log' run answer before s, Rehearsed calm c log s₀ ∧ Reordered i.resume s₀ ∧
      Staged calm (request.operation s₀.run) s₀ log' (.done run answer) none before ∧
      finding = .ofAnswer answer ∧ Reordered (before.see run) s ∧ (calm → Roused s) ∧
      (i.resume.play (.ofStep 0 0 (.one (.turn request)))).2 = s ∧
      (i.play (.one (.turn request))).1.scene = s.settle := by
  generalize opened : { i.resume.unstir 0 with turn := some 0 } = s₀
  have resumed := paused.resume
  have rehearsed : Rehearsed calm c log s₀ :=
    resumed.rehearsed.reordered (opened ▸ ⟨_, _, _, _, _, _, _, rfl⟩)
  have told := rehearsed.told accepted
  have ready (still : calm) : Ready 0 s₀ := by
    refine ⟨told.fit.faultless still, told.fit.patient still, ?_, by rw [← opened]⟩
    rw [← opened]
    exact ⟨(resumed.roused still).mailed, (resumed.roused still).called⟩
  have begun : (i.resume.unstir 0).seeTo 0 (.ahead 0 (.turn request)) =
      Scene.settleCall (s₀.drive 0 ((Finding.ofAnswer <$> request.operation) s₀.run)) := by
    have free : (i.resume.unstir 0).turn = none := resumed.free
    simp [Scene.seeTo, waitFor, Scene.begin, Scene.takeTurn, free, Scene.carryOut, ← opened]
  obtain ⟨rounds, some_rounds⟩ := Nat.exists_eq_succ_of_ne_zero
    (show Scene.roundsAhead ≠ 0 by decide)
  obtain ⟨act, s, playing, acting⟩ := playRounds_acting told.fit
    (told.addressed accepted request).map rounds (s := i.resume) (.ahead 0 (.turn request)) (by
      rw [begun]
      exact acting_settleCall (driven_drive .opened ready))
  have step : Part.ofStep 0 0 (.one (.turn request)) = .solo 0 (.ahead 0 (.turn request)) := by
    rw [Part.ofStep]
  have played : i.resume.play (.ofStep 0 0 (.one (.turn request))) = ((Part.solo 0 act).result?, s) := by
    rw [step, Scene.play, some_rounds, playing]
  have closed : i.play (.one (.turn request)) = i.close ((Part.solo 0 act).result?.map (·.2)) s := by
    rw [Interval.play, played]
  rw [closed] at found ⊢
  change (Part.solo 0 act).result?.map (·.2) = some finding at found
  cases act with
  | ended time finding' =>
    cases found
    obtain ⟨log', run, before, staged, reordered, roused⟩ := acting
    obtain ⟨b, form, course⟩ := staged.unmap
    cases b with
    | waiting run call resume => cases form
    | done run answer =>
      cases form
      exact ⟨s₀, log', run, answer, before, s, rehearsed, opened ▸ ⟨_, _, _, _, _, _, _, rfl⟩, course,
        rfl, reordered, roused, congrArg Prod.snd played, rfl⟩
  | calling u => cases found
  | ahead | waiting | inLine | resting | joining => cases found

theorem Paused.play {i : Interval} (accepted : c.flow.Accepted) (paused : Paused calm c log i.scene)
    (request : RunRequest) {finding : Finding}
    (found : (i.play (.one (.turn request))).2.finding = some finding) :
    ∃ log' run answer, Operation.Returns request.operation i.scene.run log' run answer ∧
      finding = .ofAnswer answer ∧ (i.play (.one (.turn request))).1.scene.run = run ∧
      Paused calm c (log ++ log') (i.play (.one (.turn request))).1.scene := by
  obtain ⟨s₀, log', run, answer, before, s, rehearsed, resumed, course, answered, reordered, roused,
    _, closed⟩ := paused.played accepted request found
  have same : s₀.run = i.scene.run := resumed.run
  have ended := (rehearsed.answered course).reordered reordered
  refine ⟨log', run, answer, same ▸ course.leads, answered, ?_, closed ▸ paused_settle ended roused⟩
  rw [closed]
  exact (aloof_settle s).run.trans (reordered.run.trans (Aloof.see before run).run)

theorem Paused.left {i : Interval} (accepted : c.flow.Accepted) (paused : Paused calm c log i.scene)
    (request : RunRequest) {finding : Finding}
    (found : (i.play (.one (.turn request))).2.finding = some finding) :
    ∃ log', Paused calm c (log ++ log')
      (i.resume.play (.ofStep 0 0 (.one (.turn request)))).2.leave := by
  obtain ⟨s₀, log', run, answer, before, s, rehearsed, _, course, _, reordered, roused, rfl, _⟩ :=
    paused.played accepted request found
  have ended := (rehearsed.answered course).reordered reordered
  exact ⟨log', ended.between (.left _), rfl,
    fun still => ⟨(roused still).mailed, (roused still).called⟩⟩

theorem blank_opening (p : Plan) (c : RunContext) (easy : calm → p.faults = [] ∧ p.limit ≠ some 0) :
    Blank calm c (p.opening c) where
  run := rfl
  nobody := rfl
  unassigned := rfl
  unheard := rfl
  unwritten := ⟨rfl, rfl, rfl, rfl⟩
  faultless still := (easy still).1
  patient still := (easy still).2

theorem rehearsed_listenAll {listeners : List (String × List (Option Nat))}
    (rehearsed : Rehearsed calm c log s) :
    Rehearsed calm c log (listeners.foldl (fun s l => s.listenFor l.1 none l.2) s) := by
  induction listeners generalizing s with
  | nil => exact rehearsed
  | cons l rest ih => exact ih (rehearsed.between (.listened _ _))

theorem attentive_listen (s : Scene) (l : Listener) : Attentive s (s.listen l) := by
  have added : Attentive s { s with audience := s.audience.add l } :=
    ⟨rfl, rfl, fun _ => id, fun _ => id⟩
  exact added.trans (Livelier.wake _ _).toAttentive

theorem attentive_listenAll (s : Scene) (p : Plan) : Attentive s (p.listenAll s) := by
  unfold Plan.listenAll
  generalize p.listeners = listeners
  have recorded : Attentive s s.record := attentive_listen s _
  generalize s.record = s' at recorded
  induction listeners generalizing s' with
  | nil => exact recorded
  | cons l rest ih => exact ih _ (recorded.trans (attentive_listen s' _))

def Plan.listened (p : Plan) (s : Scene) : Outcome → Scene
  | .ok _ => p.listenAll s
  | .error _ => s

theorem Plan.played_start {p : Plan} (accepted : c.flow.Accepted)
    (easy : calm → p.faults = [] ∧ p.limit ≠ some 0) {finding : Finding}
    (found : (p.start c).2.finding = some finding) :
    ∃ log run x before s, finding = .outcome x ∧
      Staged calm (Operation.start (.starting c)) (p.opening c) log (.done run x) none before ∧
      Reordered (before.see run) s ∧ (calm → Roused s) ∧
      p.start c = Interval.close ⟨p.opening c, .empty⟩ (some (.outcome x)) (p.listened s x) := by
  have blank := blank_opening p c easy
  have ready (still : calm) : Ready 0 (p.opening c) := by
    refine ⟨blank.faultless still, blank.patient still, ⟨?_, ?_⟩, rfl⟩
    · intro handle r here
      simp [blank.nobody] at here
    · intro handle r here
      simp [blank.nobody] at here
  have begun : Acting calm 0 ((Finding.outcome <$> Operation.start) (p.opening c).run) (p.opening c)
      (Scene.settleCall ((p.opening c).drive 0
        ((Finding.outcome <$> Operation.start) (p.opening c).run))).1
      (Scene.settleCall ((p.opening c).drive 0
        ((Finding.outcome <$> Operation.start) (p.opening c).run))).2 :=
    acting_settleCall (driven_drive .opened ready)
  unfold Plan.start at found ⊢
  dsimp only at found ⊢
  generalize Scene.settleCall ((p.opening c).drive 0
    ((Finding.outcome <$> Operation.start) (p.opening c).run)) = now at begun found ⊢
  obtain ⟨s₁, act₁⟩ := now
  have addressed : Addressed calm (p.opening c).world (Operation.start (.starting c)) :=
    addressed_start accepted _
  obtain ⟨rounds, some_rounds⟩ := Nat.exists_eq_succ_of_ne_zero
    (show Scene.roundsAhead ≠ 0 by decide)
  obtain ⟨act, s, playing, acting⟩ := playRounds_acting blank.fit addressed.map rounds act₁
    (begun.seeTo blank.fit addressed.map)
  have ended : s₁.play (.solo 0 act₁) = ((Part.solo 0 act).result?, s) := by
    rw [Scene.play, some_rounds, playing]
  rw [ended] at found ⊢
  change (Part.solo 0 act).result?.map (·.2) = some finding at found
  cases act with
  | ended time finding =>
    cases found
    obtain ⟨log, run, before, staged, reordered, roused⟩ := acting
    obtain ⟨b, form, course⟩ := staged.unmap
    cases b with
    | waiting run call resume => cases form
    | done run x =>
      cases form
      refine ⟨log, run, x, before, s, rfl, course, reordered, roused, ?_⟩
      cases x <;> rfl
  | calling u => cases found
  | ahead | waiting | inLine | resting | joining => cases found

theorem Plan.paused_start {p : Plan} (accepted : c.flow.Accepted)
    (easy : calm → p.faults = [] ∧ p.limit ≠ some 0)
    (found : (p.start c).2.finding = some (.outcome (.ok ()))) :
    ∃ log, Paused calm c log (p.start c).1.scene := by
  obtain ⟨log, run, x, before, s, same, course, reordered, roused, closed⟩ :=
    Plan.played_start accepted easy found
  cases same
  have listened : Rehearsed calm c log (p.listened s (.ok ())) :=
    rehearsed_listenAll (.started (blank_opening p c easy) course reordered)
  refine ⟨log, closed ▸ paused_settle listened fun still => ?_⟩
  exact (roused still).attentive (attentive_listenAll s p)

theorem Paused.playAll {i : Interval} (accepted : c.flow.Accepted) (paused : Paused calm c log i.scene)
    (requests : List RunRequest)
    (answered : ∀ a ∈ (i.playAll (requests.map fun r => .one (.turn r))).2, a.finding.isSome) :
    ∃ log', Paused calm c (log ++ log')
      (i.playAll (requests.map fun r => .one (.turn r))).1.scene := by
  induction requests generalizing log i with
  | nil => exact ⟨[], by simpa [Interval.playAll] using paused⟩
  | cons r rest ih =>
    rw [List.map_cons, Interval.playAll] at answered ⊢
    dsimp only at answered ⊢
    cases found : (i.play (.one (.turn r))).2.finding with
    | none => simp [found] at answered
    | some finding =>
      simp only [found, Option.isNone_some, Bool.false_eq_true, if_false] at answered ⊢
      obtain ⟨log', _, _, _, _, _, next⟩ := paused.play accepted r found
      obtain ⟨log'', later⟩ := ih next fun a mem => answered a (List.mem_cons_of_mem _ mem)
      exact ⟨log' ++ log'', by rwa [← List.append_assoc]⟩

end

def Account.isGranted (a : Account) : Bool := a.finding matches some (.outcome (.ok _))

theorem Account.isGranted_iff {a : Account} :
    a.isGranted = true ↔ a.finding = some (.outcome (.ok ())) := by
  unfold Account.isGranted
  split
  · rename_i found
    simp [found]
  · rename_i other
    simp only [Bool.false_eq_true, false_iff]
    exact fun found => other () found

def Plan.asked (p : Plan) (c : RunContext) (requests : List RunRequest) : Interval × List Account :=
  (p.start c).1.playAll (requests.map fun r => .one (.turn r))

/-- Whether all went so far that there is an account of what came of it. -/
def Plan.Answered (p : Plan) (c : RunContext) (requests : List RunRequest) : Prop :=
  (p.start c).2.finding = some (.outcome (.ok ())) ∧
    ∀ a ∈ (p.asked c requests).2, a.finding.isSome

instance (p : Plan) (c : RunContext) (requests : List RunRequest) :
    Decidable (p.Answered c requests) :=
  decidable_of_iff ((p.start c).2.isGranted ∧ ∀ a ∈ (p.asked c requests).2, a.finding.isSome)
    (and_congr_left' Account.isGranted_iff)

theorem Plan.paused_asked (p : Plan) {c : RunContext} (requests : List RunRequest)
    (accepted : c.flow.Accepted) (easy : calm → p.faults = [] ∧ p.limit ≠ some 0)
    (answered : p.Answered c requests) : ∃ log, Paused calm c log (p.asked c requests).1.scene := by
  obtain ⟨log, started⟩ := p.paused_start accepted easy answered.1
  obtain ⟨log', later⟩ := started.playAll accepted requests answered.2
  exact ⟨log ++ log', later⟩

end
end FlowRuntime.Rehearsal
