import FlowRuntime.Proofs.Rehearsal.Errands

/-!
Activities in a scene, step by step. A call is begun, looked after until its answer has
come, and answered; all the while instances read their mail, listeners work and time
passes. When all is to be calm, no time passes during a call. We verify that an activity
that is staged follows one of its courses, and that the instances and the partitioner
have answered what is answered in it.
-/
namespace FlowRuntime.Rehearsal

inductive Meanwhile : Scene → Scene → Prop where
  | read (s : Scene) (handle : Handle) : Meanwhile s (s.residentReads handle)
  | heard (s : Scene) (i : Nat) : Meanwhile s (s.listenerWorks i)
  | reordered {s s' : Scene} (reordered : Reordered s s') : Meanwhile s s'

/-- From a scene on, an activity has come to be another by these exchanges. If there is a fate, it is
that of the call that the activity waits for, and the call is under way. -/
inductive Staged {α : Type} (calm : Prop) (a : Activity α) (s₀ : Scene) :
    List Exchange → Activity α → Option Fate → Scene → Prop where
  | opened : Staged calm a s₀ [] a none s₀
  | begun {log : List Exchange} {run : Run} {call : Call} {resume : call.Answer → Activity α}
      {s : Scene} (before : Staged calm a s₀ log (.waiting run call resume) none s) (place : Nat) :
      Staged calm a s₀ log (.waiting run call resume) (some ((s.see run).beginCall place call).2)
        ((s.see run).beginCall place call).1
  | looked {log : List Exchange} {run : Run} {call : Call} {resume : call.Answer → Activity α}
      {fate : Fate} {s : Scene}
      (before : Staged calm a s₀ log (.waiting run call resume) (some fate) s)
      (pending : (s.answer? fate call).2 = none) :
      Staged calm a s₀ log (.waiting run call resume) (some fate) (s.answer? fate call).1
  | answered {log : List Exchange} {run : Run} {call : Call} {resume : call.Answer → Activity α}
      {fate : Fate} {s : Scene} {answer : call.Answer}
      (before : Staged calm a s₀ log (.waiting run call resume) (some fate) s)
      (given : (s.answer? fate call).2 = some answer) :
      Staged calm a s₀ (log ++ [⟨call, answer⟩]) (resume answer) none (s.answer? fate call).1
  | meanwhile {log : List Exchange} {b : Activity α} {fate : Option Fate} {s s' : Scene}
      (before : Staged calm a s₀ log b fate s) (step : Meanwhile s s') :
      Staged calm a s₀ log b fate s'
  | passed {log : List Exchange} {b : Activity α} {fate : Option Fate} {s : Scene}
      (before : Staged calm a s₀ log b fate s) (time : Nat) (idle : calm → fate = none) :
      Staged calm a s₀ log b fate { s with now := time }

/-! ### Between two calls -/

section
variable {calm : Prop} {w : World} {s s' : Scene}

/-- What has been asked before is all that there is to be answered. -/
structure Resting (calm : Prop) (w : World) (s : Scene) : Prop where
  fit : Fit calm s
  keeps : w.Keeps s.world

theorem Fit.moved (fit : Fit calm s) (unread : Unread s s') : Fit calm s' where
  tidy := by
    rw [unread.residents, unread.round]
    exact fit.tidy
  faultless := unread.faults ▸ fit.faultless
  patient := unread.limit ▸ fit.patient

theorem World.Keeps.moved (keeps : w.Keeps s.world) (unread : Unread s s') : w.Keeps s'.world where
  size := unread.residents ▸ keeps.size
  each := by
    unfold World.Each
    rw [unread.residents]
    exact keeps.each
  partitioner := unread.partitioner.trans keeps.partitioner

theorem Resting.moved (resting : Resting calm w s) (unread : Unread s s') : Resting calm w s' :=
  ⟨resting.fit.moved unread, resting.keeps.moved unread⟩

theorem noteAnswers_unread (s : Scene) (answers : List (Letter × Outcome)) :
    Unread s (answers.foldl (fun s a => s.noteAnswer a.1 a.2) s) := by
  apply Scene.noteAnswers_induction (P := Unread s) ⟨⟨rfl, rfl, rfl, rfl, rfl, rfl⟩, rfl⟩
  intro s' l outcome unread
  refine unread.trans (Scene.noteAnswer_induction (P := Unread s')
    ⟨⟨rfl, rfl, rfl, rfl, rfl, rfl⟩, rfl⟩ ⟨⟨rfl, rfl, rfl, rfl, rfl, rfl⟩, rfl⟩ ?_)
  intro s'' players unread
  exact unread.trans (Unmoved.ofReordered (.wakeAll s'' players)).toUnread

theorem Resting.residentReads (resting : Resting calm w s) (handle : Handle) :
    Resting calm w (s.residentReads handle) := by
  cases found : s.world.residents[handle]? with
  | none => rwa [residentReads_nobody found]
  | some r =>
    have tidy := resting.fit.tidy handle r found
    have within := (Array.getElem?_eq_some_iff.mp found).1
    have read : Resting calm w
        { s with world.residents := s.world.residents.setIfInBounds handle r.afterReading } := by
      refine ⟨⟨?_, resting.fit.faultless, resting.fit.patient⟩,
        resting.keeps.trans ⟨Array.size_setIfInBounds, ?_, rfl⟩⟩
      · intro h x here
        rcases getElem?_set_cases here with ⟨_, rfl, _⟩ | ⟨_, before⟩
        · exact tidy.afterReading
        · exact resting.fit.tidy h x before
      · intro h x here
        dsimp only
        rw [Array.getElem?_setIfInBounds, if_pos within]
        split
        · rename_i same
          rw [← same, found] at here
          cases here
          exact ⟨_, rfl, Resident.keeps_afterReading r⟩
        · exact ⟨x, here, .refl x⟩
    rw [residentReads_foldl found tidy.going]
    exact read.moved (noteAnswers_unread _ _)

/-! ### A call from its beginning to its answer -/

/-- A call that is under way. If all is calm, it was not met by a failure. -/
def Attended (calm : Prop) (w : World) (s : Scene) (fate : Fate) : Call → Prop
  | .fanOut op targets => InFlight calm w op targets s ∧ s.errands.size = targets.length
  | _ => Resting calm w s ∧ (calm → fate.failure = none)

theorem resting_beginSingle (resting : Resting calm w s) (place : Nat) (call : LoggedCall) :
    Resting calm w (s.beginSingle place call).1 ∧
      (calm → (s.beginSingle place call).2.failure = none) := by
  have faults (still : calm) : (s.world.meet call).1.faults = [] := by
    rw [World.meet_faultless (resting.fit.faultless still)]
  have met : Resting calm w { s with world := (s.world.meet call).1 } :=
    ⟨⟨resting.fit.tidy, faults, resting.fit.patient⟩,
      resting.keeps.size, resting.keeps.each, resting.keeps.partitioner⟩
  refine ⟨met.moved (Unmoved.ofReordered (.cueAt _ _ place)).toUnread, ?_⟩
  intro still
  rw [Scene.beginSingle, World.meet_faultless (resting.fit.faultless still)]
  rfl

theorem attended_beginCall (resting : Resting calm w s) (place : Nat) {call : Call}
    (knows : ∀ op targets, call = .fanOut op targets → s.world.Knows targets) :
    Attended calm w (s.beginCall place call).1 (s.beginCall place call).2 call := by
  cases call with
  | bind groups => exact resting_beginSingle resting place _
  | repartition group => exact resting_beginSingle resting place _
  | start options => exact resting_beginSingle resting place _
  | fanOut op targets =>
    have opened : InFlight calm w op ([] ++ targets)
        { s with round := s.round + 1, since := s.now, errands := #[] } :=
      .opened resting.fit resting.keeps (knows op targets rfl)
    refine ⟨.startErrands [] opened rfl place, ?_⟩
    exact (Made.startErrands_size _ place op targets).trans (Nat.zero_add _)

theorem single?_cases {α : Type} (s : Scene) (fate : Fate) (go : World → World × Except Failure α) :
    s.single? fate go = (s, none) ∨
    (∃ e, fate.failure ≠ none ∧ s.single? fate go = (s, some (.error e))) ∨
    s.single? fate go = ({ s with world := (go s.world).1 }, some (go s.world).2) := by
  unfold Scene.single?
  split
  · exact .inl rfl
  · split
    · rename_i text failed
      exact .inr (.inl ⟨_, by simp [failed], rfl⟩)
    · exact .inr (.inr rfl)

theorem Attended.looked {fate : Fate} {call : Call} (attended : Attended calm w s fate call)
    (pending : (s.answer? fate call).2 = none) :
    Attended calm w (s.answer? fate call).1 fate call := by
  have waited {α : Type} {go : World → World × Except Failure α}
      (unanswered : (s.single? fate go).2 = none) : (s.single? fate go).1 = s := by
    rcases single?_cases s fate go with same | ⟨e, _, same⟩ | same
    · rw [same]
    · simp [same] at unanswered
    · simp [same] at unanswered
  cases call with
  | bind groups =>
    simp only [Scene.answer?] at pending ⊢
    rwa [waited pending]
  | repartition group =>
    simp only [Scene.answer?] at pending ⊢
    rwa [waited pending]
  | start options =>
    obtain ⟨resting, harmless⟩ := attended
    simp only [Scene.answer?] at pending ⊢
    rw [waited pending]
    exact ⟨resting.moved (Unmoved.ofReordered (.greet s _)).toUnread, harmless⟩
  | fanOut op targets =>
    exact ⟨attended.1.attendErrands, (Unheard.attendErrands s op targets).errands.trans attended.2⟩

theorem answers_start (resting : Resting calm w s) (options : InstanceOptions) :
    w.Answers calm ⟨.start options, (s.world.start options).2⟩ (s.world.start options).1 ∧
      Fit calm { s with world := (s.world.start options).1 } := by
  unfold World.start
  split
  · rename_i e refused
    exact ⟨⟨resting.keeps, .inl refused⟩, resting.fit.tidy, resting.fit.faultless, resting.fit.patient⟩
  · rename_i i started
    refine ⟨World.Answers.since ⟨rfl, Array.size_push _, ?_, rfl, _, Array.getElem?_push_size, started,
      rfl⟩ resting.keeps, ?_, resting.fit.faultless, resting.fit.patient⟩
    · intro handle r found
      refine ⟨r, ?_, .refl r⟩
      have within := (Array.getElem?_eq_some_iff.mp found).1
      rw [Array.getElem?_push, if_neg (Nat.ne_of_lt within)]
      exact found
    · intro handle r found
      rcases getElem?_push_cases found with ⟨_, rfl⟩ | ⟨_, old⟩
      · exact ⟨rfl, fun _ => rfl, by simp⟩
      · exact resting.fit.tidy handle r old

theorem answers_assignment {fate : Fate} (groups : List ConsumerGroup) {answer : Outcome}
    {go : World → World × Outcome}
    (goes : go s.world = ({ s.world with partitioner := (s.world.partitioner.bind groups).1 },
      (s.world.partitioner.bind groups).2))
    (resting : Resting calm w s) (harmless : calm → fate.failure = none)
    (given : (s.single? fate go).2 = some answer) :
    w.Answers calm ⟨.bind groups, answer⟩ (s.single? fate go).1.world ∧
      Fit calm (s.single? fate go).1 := by
  rcases single?_cases s fate go with same | ⟨e, failed, same⟩ | same
  · simp [same] at given
  · rw [same] at given ⊢
    cases given
    exact ⟨⟨resting.keeps.size, resting.keeps.each,
      .inr ⟨fun still => failed (harmless still), resting.keeps.partitioner, e, rfl⟩⟩, resting.fit⟩
  · rw [same, goes] at given ⊢
    cases given
    refine ⟨⟨resting.keeps.size, resting.keeps.each, .inl ?_⟩,
      resting.fit.tidy, resting.fit.faultless, resting.fit.patient⟩
    rw [← resting.keeps.partitioner]

theorem Attended.answers {fate : Fate} {call : Call} (attended : Attended calm w s fate call)
    {answer : call.Answer} (given : (s.answer? fate call).2 = some answer) :
    w.Answers calm ⟨call, answer⟩ (s.answer? fate call).1.world ∧
      Fit calm (s.answer? fate call).1 := by
  cases call with
  | bind groups => exact answers_assignment groups rfl attended.1 attended.2 given
  | repartition group =>
    exact answers_assignment [group] rfl attended.1 attended.2 given
  | start options =>
    obtain ⟨resting, harmless⟩ := attended
    simp only [Scene.answer?] at given ⊢
    rcases single?_cases s fate (·.start options) with same | ⟨e, failed, same⟩ | same
    · simp [same] at given
    · rw [same] at given ⊢
      cases given
      have greeted := resting.moved (Unmoved.ofReordered (.greet s s.world.residents.size)).toUnread
      exact ⟨⟨greeted.keeps, .inr fun still => failed (harmless still)⟩, greeted.fit⟩
    · rw [same] at given ⊢
      cases given
      obtain ⟨answers, fit⟩ := answers_start resting options
      obtain ⟨_, _, _, _, _, _, _, greeted⟩ := Reordered.greet
        { s with world := (s.world.start options).1 } s.world.residents.size
      rw [greeted]
      exact ⟨answers, fit.tidy, fit.faultless, fit.patient⟩
  | fanOut op targets =>
    obtain ⟨flight, count⟩ := attended
    have attended := flight.attendErrands
    have all := (Unheard.attendErrands s op targets).errands.trans count
    exact ⟨attended.answers all given, attended.fit⟩

theorem Meanwhile.aloof (step : Meanwhile s s') : Aloof s s' := by
  cases step with
  | read handle => exact (Unheard.residentReads s handle).toAloof
  | heard i => exact .listenerWorks s i
  | reordered reordered => exact .ofReordered reordered

theorem Meanwhile.unread_or_read (step : Meanwhile s s') :
    Unmoved s s' ∨ ∃ handle, s' = s.residentReads handle := by
  cases step with
  | read handle => exact .inr ⟨handle, rfl⟩
  | heard i => exact .inl (.listenerWorks s i)
  | reordered reordered => exact .inl (.ofReordered reordered)

theorem Resting.meanwhile (resting : Resting calm w s) (step : Meanwhile s s') :
    Resting calm w s' := by
  rcases step.unread_or_read with unmoved | ⟨handle, rfl⟩
  · exact resting.moved unmoved.toUnread
  · exact resting.residentReads handle

theorem Attended.meanwhile {fate : Fate} {call : Call} (attended : Attended calm w s fate call)
    (step : Meanwhile s s') : Attended calm w s' fate call := by
  cases call with
  | bind groups => exact attended.imp_left (·.meanwhile step)
  | repartition group => exact attended.imp_left (·.meanwhile step)
  | start options => exact attended.imp_left (·.meanwhile step)
  | fanOut op targets =>
    obtain ⟨flight, count⟩ := attended
    rcases step.unread_or_read with unmoved | ⟨handle, rfl⟩
    · exact ⟨flight.moved unmoved, unmoved.errands ▸ count⟩
    · exact ⟨flight.residentReads handle, (Unheard.residentReads s handle).errands.trans count⟩

theorem Resting.passed (resting : Resting calm w s) (time : Nat) :
    Resting calm w { s with now := time } :=
  ⟨⟨resting.fit.tidy, resting.fit.faultless, resting.fit.patient⟩,
    resting.keeps.size, resting.keeps.each, resting.keeps.partitioner⟩

theorem Attended.passed {fate : Fate} {call : Call} (attended : Attended calm w s fate call)
    (restless : ¬ calm) (time : Nat) : Attended calm w { s with now := time } fate call := by
  cases call with
  | bind groups => exact attended.imp_left (·.passed time)
  | repartition group => exact attended.imp_left (·.passed time)
  | start options => exact attended.imp_left (·.passed time)
  | fanOut op targets =>
    obtain ⟨flight, count⟩ := attended
    exact ⟨{
      fit := ⟨flight.fit.tidy, flight.fit.faultless, flight.fit.patient⟩
      knows := flight.knows
      prompt := fun still => absurd still restless
      size := flight.size
      partitioner := flight.partitioner
      begun := flight.begun
      unbegun := flight.unbegun }, count⟩

end

/-! ### Whole activities -/

section
variable {α : Type} {calm : Prop} {a b : Activity α} {log : List Exchange} {fate : Option Fate}
  {s₀ s : Scene}

/-- As long as it is answered by the world, every fan-out that the activity comes to is for instances
that there are. -/
def Addressed (calm : Prop) (w : World) (a : Activity α) : Prop :=
  ∀ log v run op targets resume, a.Leads log (.waiting run (.fanOut op targets) resume) →
    w.AnswersAll calm log v → v.Knows targets

/-- Since the last answer, the call that is waited for may be under way. -/
def Underway (calm : Prop) (w : World) (s : Scene) : Option Fate → Activity α → Prop
  | none, _ => Resting calm w s
  | some fate, .waiting _ call _ => Attended calm w s fate call
  | some _, .done _ _ => False

theorem Staged.leads (staged : Staged calm a s₀ log b fate s) : a.Leads log b := by
  induction staged with
  | opened => exact .here a
  | begun before place ih => exact ih
  | looked before pending ih => exact ih
  | answered before given ih => exact ih.trans (.next _ (.here _))
  | meanwhile before step ih => exact ih
  | passed before time idle ih => exact ih

/-- What has been called for by the call that is under way, if any. -/
def pendingCalls : Option Fate → Activity α → List LoggedCall
  | some _, .waiting _ call _ => call.logged
  | _, _ => []

theorem Staged.calls (staged : Staged calm a s₀ log b fate s) :
    s.world.calls = (callsOf log ++ pendingCalls fate b).reverse ++ s₀.world.calls := by
  induction staged with
  | opened => rfl
  | @begun log run call resume s before place ih =>
    have made := Made.beginCall (s.see run) place call
    rw [made.calls, (Aloof.see s run).calls, ih]
    simp [pendingCalls]
  | @looked log run call resume fate s before pending ih =>
    rw [(Looked.answer? s fate call).calls, ih]
  | @answered log run call resume fate s answer before given ih =>
    rw [(Looked.answer? s fate call).calls, ih]
    simp [pendingCalls]
  | meanwhile before step ih => rw [step.aloof.calls, ih]
  | passed before time idle ih => exact ih

theorem Staged.underway (fit : Fit calm s₀) (addressed : Addressed calm s₀.world a)
    (staged : Staged calm a s₀ log b fate s) :
    ∃ v, s₀.world.AnswersAll calm log v ∧ Underway calm v s fate b := by
  induction staged with
  | opened => exact ⟨s₀.world, .refl _, fit, .refl _⟩
  | @begun log run call resume s before place ih =>
    obtain ⟨v, answers, resting⟩ := ih
    have seen := Resting.moved resting (Unmoved.see s run).toUnread
    refine ⟨v, answers, attended_beginCall seen place ?_⟩
    rintro op targets rfl
    exact addressed log _ run op targets resume before.leads (answers.keeps seen.keeps)
  | looked before pending ih =>
    obtain ⟨v, answers, attended⟩ := ih
    exact ⟨v, answers, Attended.looked attended pending⟩
  | answered before given ih =>
    obtain ⟨v, answers, attended⟩ := ih
    obtain ⟨answered, fit⟩ := Attended.answers attended given
    exact ⟨_, World.answersAll_append.mpr ⟨v, answers, _, answered, .refl _⟩, fit, .refl _⟩
  | @meanwhile log b fate s s' before step ih =>
    obtain ⟨v, answers, underway⟩ := ih
    refine ⟨v, answers, ?_⟩
    cases fate with
    | none => exact Resting.meanwhile underway step
    | some fate =>
      cases b with
      | done run x => exact underway
      | waiting run call resume => exact Attended.meanwhile underway step
  | @passed log b fate s before time idle ih =>
    obtain ⟨v, answers, underway⟩ := ih
    refine ⟨v, answers, ?_⟩
    cases fate with
    | none => exact Resting.passed underway time
    | some fate =>
      have restless : ¬ calm := fun still => nomatch idle still
      cases b with
      | done run x => exact underway
      | waiting run call resume => exact Attended.passed underway restless time

end
end FlowRuntime.Rehearsal
