import FlowRuntime.Proofs.Rehearsal.Staged
import FlowRuntime.Proofs.Run.Handles

/-!
Whole rehearsals. A run is started in a scene where nothing has happened yet; its recorder
listens from then on, and requests are carried out one after the other. In between, steps
end, more listeners come, and what is planned to go wrong may change. We verify that
between two requests the run is one that its program can come to, by exchanges that the
instances and the partitioner have answered from the beginning, and that every fan-out is
for instances that there are, each in its own place.
-/
namespace FlowRuntime.Rehearsal

structure Blank (calm : Prop) (c : RunContext) (s : Scene) : Prop where
  run : s.run = .starting c
  nobody : s.world.residents = #[]
  unassigned : s.world.partitioner = .empty
  unheard : s.audience.listeners = #[]
  unwritten : s.audience.ledger.run = c.run ∧ s.audience.ledger.attempts = 0 ∧
    s.audience.ledger.log = [] ∧ s.audience.ledger.dropped = 0
  faultless : calm → s.world.faults = []
  patient : calm → s.limit ≠ some 0

inductive Between (calm : Prop) : Scene → Scene → Prop where
  | meanwhile {s s' : Scene} (step : Meanwhile s s') : Between calm s s'
  | passed (s : Scene) (time : Nat) : Between calm s { s with now := time }
  | left (s : Scene) : Between calm s s.leave
  | listened (s : Scene) (l : Listener) : Between calm s (s.listen l)
  | noted (s : Scene) (past : Nat) :
    Between calm s { s with world.calls := [], audience.ledger.log := [], audience.past := past }
  | refused (s : Scene) (refuses : Nat → Bool) (delays : Nat → Option Nat) :
    Between calm s { s with audience.ledger.refuses := refuses, audience.ledger.delays := delays }
  | planned (s : Scene) (faults : List Fault) (restless : ¬ calm) :
    Between calm s { s with world.faults := faults }

/-- The scenes between two requests, with all exchanges before. -/
inductive Rehearsed (calm : Prop) (c : RunContext) : List Exchange → Scene → Prop where
  | started {s₀ s s' : Scene} {log : List Exchange} {run : Run} (blank : Blank calm c s₀)
      (course : Staged calm (Operation.start (.starting c)) s₀ log (.done run (.ok ())) none s)
      (reordered : Reordered (s.see run) s') : Rehearsed calm c log s'.record
  | answered {s₀ s : Scene} {log log' : List Exchange} {request : RunRequest} {run : Run}
      {answer : RunAnswer} (before : Rehearsed calm c log s₀)
      (course : Staged calm (request.operation s₀.run) s₀ log' (.done run answer) none s) :
      Rehearsed calm c (log ++ log') (s.see run)
  | between {s s' : Scene} {log : List Exchange} (before : Rehearsed calm c log s)
      (step : Between calm s s') : Rehearsed calm c log s'

/-- All scenes there are in a rehearsal, also while it starts and while a request is carried out. -/
inductive Onstage (calm : Prop) (c : RunContext) : List Exchange → Scene → Prop where
  | starting {s₀ s : Scene} {log : List Exchange} {b : Activity Outcome} {fate : Option Fate}
      (blank : Blank calm c s₀)
      (course : Staged calm (Operation.start (.starting c)) s₀ log b fate s) : Onstage calm c log s
  | resting {s : Scene} {log : List Exchange} (rehearsed : Rehearsed calm c log s) :
      Onstage calm c log s
  | busy {s₀ s : Scene} {log log' : List Exchange} {request : RunRequest} {b : Activity RunAnswer}
      {fate : Option Fate} (before : Rehearsed calm c log s₀)
      (course : Staged calm (request.operation s₀.run) s₀ log' b fate s) :
      Onstage calm c (log ++ log') s

namespace World

abbrev vacant : World := .empty []

variable {calm : Prop} {w w' : World} {log : List Exchange} {key : StageKey} {handle : Handle}

theorem AnswersAll.of_gave (answers : w.AnswersAll calm log w') (gave : Gave log key handle) :
    ∃ r, w'.residents[handle]? = some r ∧ r.self.key = key := by
  obtain ⟨options, rfl, mem⟩ := gave
  obtain ⟨before, after, rfl⟩ := List.append_of_mem mem
  obtain ⟨u, _, v, ⟨_, _, _, _, r, found, started, _⟩, later⟩ := answersAll_append.mp answers
  obtain ⟨r', found', same⟩ := later.key handle r found
  exact ⟨r', found', same.trans (LocalInstance.key_of_start started)⟩

theorem Answers.gave {e : Exchange} (answers : w.Answers calm e w') {r' : Resident}
    (found : w'.residents[handle]? = some r') (fresh : w.residents[handle]? = none) :
    Gave [e] r'.self.key handle := by
  have beyond : w.residents.size ≤ handle := Array.getElem?_eq_none_iff.mp fresh
  have within : handle < w'.residents.size := (Array.getElem?_eq_some_iff.mp found).1
  have grown : w'.residents.size ≠ w.residents.size :=
    Nat.ne_of_gt (Nat.lt_of_le_of_lt beyond within)
  obtain ⟨call, answer⟩ := e
  cases call with
  | bind groups => exact absurd answers.1 grown
  | repartition group => exact absurd answers.1 grown
  | fanOut op targets => exact absurd answers.2.1 grown
  | start options =>
    cases answer with
    | error e => exact absurd answers.1.size grown
    | ok given =>
      obtain ⟨here, size, _, _, r, placed, started, _⟩ := answers
      rw [size] at within
      obtain rfl : given = handle :=
        Nat.le_antisymm (here ▸ beyond) (Nat.le_of_lt_succ within)
      rw [found] at placed
      cases placed
      exact ⟨options, (LocalInstance.key_of_start started).symm, by simp⟩

theorem AnswersAll.gave (answers : w.AnswersAll calm log w') {r' : Resident}
    (found : w'.residents[handle]? = some r') :
    (∃ r, w.residents[handle]? = some r) ∨ Gave log r'.self.key handle := by
  induction log generalizing w with
  | nil =>
    obtain ⟨r, before, _⟩ := answers.exists_before found
    exact .inl ⟨r, before⟩
  | cons e rest ih =>
    obtain ⟨v, first, others⟩ := answers
    rcases ih others with ⟨r₁, found₁⟩ | later
    · cases before : w.residents[handle]? with
      | some r => exact .inl ⟨r, rfl⟩
      | none =>
        obtain ⟨r'', found'', same⟩ := others.key handle r₁ found₁
        rw [found] at found''
        cases found''
        rw [same]
        exact .inr ((first.gave found₁ before).left rest)
    · exact .inr (later.right [e])

theorem knows_of_addresses {op : InstanceOp} {targets : List (StageKey × Handle)}
    (held : Registry Handle) (addresses : (Call.fanOut op targets).Addresses held log)
    (answers : w.AnswersAll calm log w')
    (known : ∀ key handle, held.get? key = some handle →
      ∃ r, w'.residents[handle]? = some r ∧ r.self.key = key) : w'.Knows targets where
  nodup := addresses.1
  there := by
    intro t mem
    rcases addresses.2 t mem with found | gave
    · exact known t.1 t.2 found
    · exact answers.of_gave gave

end World

section
variable {calm : Prop} {c : RunContext} {log log' : List Exchange} {s s' s₀ : Scene}

theorem addresses_of_leads {α : Type} {op : Operation α} {run run' : Run} {held : Registry Handle}
    {asked : InstanceOp} {targets : List (StageKey × Handle)}
    {resume : (Call.fanOut asked targets).Answer → Activity α}
    (leads : (op run).Leads log (.waiting run' (.fanOut asked targets) resume))
    (all : ∀ log last x, Operation.Returns op run log last x →
      ∀ e ∈ log, e.call.Addresses held log) :
    (Call.fanOut asked targets).Addresses held log := by
  obtain ⟨rest, last, x, returned, refused⟩ := Operation.Awaits.exists_returns ⟨resume, leads⟩
  obtain ⟨nodup, each⟩ := all _ last x returned _ (List.mem_append_right _ List.mem_cons_self)
  have unanswered : ∀ e ∈ ⟨.fanOut asked targets, Activity.refusal (.fanOut asked targets)⟩ :: rest,
      e.isGranted = false := List.forall_mem_cons.mpr ⟨rfl, refused⟩
  exact ⟨nodup, fun t mem => (each t mem).imp_right (·.of_refused unanswered)⟩

theorem addressed_start (accepted : c.flow.Accepted) (w : World) :
    Addressed calm w (Operation.start (.starting c)) := by
  intro log v run op targets resume leads answers
  refine World.knows_of_addresses .empty (addresses_of_leads leads ?_) answers ?_
  · intro log last x returned
    exact (Operation.returns_start returned).addresses accepted
  · intro key handle found
    cases found

/-- What is known of a scene between two requests. -/
structure Told (calm : Prop) (c : RunContext) (log : List Exchange) (s : Scene) : Prop where
  reached : Reached c log s.run
  fit : Fit calm s
  answers : World.vacant.AnswersAll calm log s.world

theorem Told.addressed (accepted : c.flow.Accepted) (told : Told calm c log s)
    (request : RunRequest) : Addressed calm s.world (request.operation s.run) := by
  intro log' v run op targets resume leads answers
  refine World.knows_of_addresses s.run.registry (addresses_of_leads leads ?_) answers ?_
  · intro log' last x returned
    exact (returns_request returned).addresses (sound_of_accepted accepted told.reached)
  · intro key handle found
    obtain ⟨r, before, here⟩ := told.answers.of_gave (told.reached.gave accepted found)
    obtain ⟨r', found', same⟩ := answers.key handle r before
    exact ⟨r', found', same.trans here⟩

theorem Blank.keeps (blank : Blank calm c s) : World.vacant.Keeps s.world where
  size := by
    rw [blank.nobody]
    rfl
  each := by
    intro handle r found
    simp [World.empty] at found
  partitioner := blank.unassigned

theorem Blank.fit (blank : Blank calm c s) : Fit calm s where
  tidy := by simp [blank.nobody]
  faultless := blank.faultless
  patient := blank.patient

theorem unread_listen (s : Scene) (l : Listener) : Unread s (s.listen l) :=
  (⟨⟨rfl, rfl, rfl, rfl, rfl, rfl⟩, rfl⟩ : Unread s { s with audience := s.audience.add l }).trans
    (Unmoved.ofReordered (.wake _ _)).toUnread

theorem Reordered.run (reordered : Reordered s s') : s'.run = s.run := by
  obtain ⟨_, _, _, _, _, _, _, rfl⟩ := reordered
  rfl

theorem Between.resting (step : Between calm s s') (fit : Fit calm s) :
    s'.run = s.run ∧ Resting calm s.world s' := by
  have resting : Resting calm s.world s := ⟨fit, .refl _⟩
  cases step with
  | meanwhile step => exact ⟨step.aloof.run, resting.meanwhile step⟩
  | passed time => exact ⟨rfl, resting.passed time⟩
  | left =>
    refine ⟨rfl, ⟨?_, fit.faultless, fit.patient⟩, .refl _⟩
    intro handle r found
    exact (fit.tidy handle r found).later (Nat.le_succ _)
  | listened l => exact ⟨(Aloof.listen s l).run, resting.moved (unread_listen s l)⟩
  | noted =>
    exact ⟨rfl, ⟨fit.tidy, fit.faultless, fit.patient⟩, ⟨rfl, resting.keeps.each, rfl⟩⟩
  | refused refuses delays => exact ⟨rfl, ⟨fit.tidy, fit.faultless, fit.patient⟩, .refl _⟩
  | planned faults restless =>
    exact ⟨rfl, ⟨fit.tidy, fun still => absurd still restless, fit.patient⟩,
      ⟨rfl, resting.keeps.each, rfl⟩⟩

theorem Rehearsed.told (accepted : c.flow.Accepted) (rehearsed : Rehearsed calm c log s) :
    Told calm c log s := by
  induction rehearsed with
  | @started s₀ s s' log run blank course reordered =>
    obtain ⟨v, answers, resting⟩ := course.underway blank.fit (addressed_start accepted _)
    have onward := (Resting.moved resting (Unmoved.see s run).toUnread).moved
      (Unmoved.ofReordered reordered).toUnread
    have recorded : Resting calm v s'.record := onward.moved (unread_listen s' _)
    refine ⟨?_, recorded.fit, (answers.since blank.keeps).keeps recorded.keeps⟩
    have here : s'.record.run = run :=
      (Aloof.listen s' _).run.trans (reordered.run.trans (Aloof.see s run).run)
    rw [here]
    exact .started course.leads
  | @answered s₀ s log log' request run answer before course ih =>
    obtain ⟨v, answers, resting⟩ := course.underway ih.fit (ih.addressed accepted request)
    have onward := Resting.moved resting (Unmoved.see s run).toUnread
    refine ⟨?_, onward.fit, World.answersAll_append.mpr ⟨_, ih.answers, answers.keeps onward.keeps⟩⟩
    have here : (s.see run).run = run := (Aloof.see s run).run
    rw [here]
    exact .answered ih.reached course.leads
  | between before step ih =>
    obtain ⟨run, resting⟩ := step.resting ih.fit
    exact ⟨run ▸ ih.reached, resting.fit, ih.answers.keeps resting.keeps⟩

end
end FlowRuntime.Rehearsal
