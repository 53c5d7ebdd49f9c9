import FlowRuntime.Proofs.Record.Mirror
import FlowRuntime.Proofs.Record.Recorder
import FlowRuntime.Proofs.Rehearsal.Startup

/-!
Rehearsals and the record of the run. The recorder is the first who listens and hears of
the whole story, and nobody else writes. We verify that in every scene what has been
attempted, dropped and stored is what comes of writing the story of the run as it was last
seen, and that the record shows how the run stands once the recorder has nothing left to do.
-/
namespace FlowRuntime

/-- All attempts that there have been, of which a ledger may have kept only the last. -/
structure Ledger.Traces (l : Ledger) (attempts : List LoggedWrite) : Prop where
  kept : l.log <:+ attempts
  count : attempts.length = l.attempts

theorem Ledger.Traces.attempted {l l' : Ledger} {attempts new : List LoggedWrite}
    (traces : l.Traces attempts) (attempted : Attempted l new l') : l'.Traces (attempts ++ new) where
  kept := by
    obtain ⟨earlier, rfl⟩ := traces.kept
    rw [attempted.log]
    exact ⟨earlier, (List.append_assoc _ _ _).symm⟩
  count := by rw [List.length_append, traces.count, attempted.count]

def Listener.isRecorder : Listener → Bool
  | .hearer _ => false
  | .recorder _ => true

namespace Audience

def writers (a : Audience) : List Bool := a.listeners.toList.map Listener.isRecorder

def Sole (a : Audience) : Prop := ∀ i, a.writers[i]? = some true → i = 0

/-- The first listener keeps the record of a run: it has been told this and has made these attempts,
starting from this store. -/
structure Records (c : RunContext) (store : Option RecordStore) (told : List Notice)
    (log : List LoggedWrite) (a : Audience) : Prop where
  run : a.ledger.run = c.run
  recorder : ∃ r, a.listeners[0]? = some (.recorder r) ∧ r.options = c.options ∧
    r.policy = a.policy ∧ r.Keeps store told log a.ledger

variable {c : RunContext} {store : Option RecordStore} {told : List Notice}
  {log : List LoggedWrite} {a a' : Audience}

theorem writers_tell (a : Audience) (n : Notice) : (a.tell n).writers = a.writers := by
  have each : Listener.isRecorder ∘ Listener.tell n = Listener.isRecorder := by
    funext l
    cases l <;> rfl
  simp [writers, tell, each]

theorem isRecorder_work (l : Listener) (now : Nat) (ledger : Ledger) :
    (l.work now ledger).1.isRecorder = l.isRecorder := by
  cases l <;> rfl

theorem writers_work (a : Audience) (now i : Nat) : (a.work now i).writers = a.writers := by
  unfold work
  split
  · rfl
  · rename_i l found
    apply List.ext_getElem?
    intro j
    by_cases here : i = j
    · subst here
      obtain ⟨within, same⟩ := Array.getElem?_eq_some_iff.mp found
      simp [writers, within, same, isRecorder_work]
    · simp [writers, here]

theorem Records.tell (records : a.Records c store told log) {n : Notice}
    (going : Going ((told ++ [n]).map Notice.toTransition)) :
    (a.tell n).Records c store (told ++ [n]) log := by
  obtain ⟨run, r, first, options, policy, keeps⟩ := records
  refine ⟨run, { r with inbox := r.inbox.tell n }, ?_, options, policy, keeps.tell going⟩
  simp [Audience.tell, first, Listener.tell]

theorem Records.work (records : a.Records c store told log) (sole : a.Sole)
    (going : Going (told.map Notice.toTransition)) (now i : Nat) : ∃ new, Attempted a.ledger new (a.work now i).ledger ∧
      (a.work now i).Records c store told (log ++ new) := by
  obtain ⟨run, r, first, options, policy, keeps⟩ := records
  unfold Audience.work
  split
  · exact ⟨[], .nil _, run, r, first, options, policy, by simpa using keeps⟩
  · rename_i l found
    cases l with
    | hearer h =>
      have other : i ≠ 0 := by
        rintro rfl
        rw [first] at found
        cases found
      refine ⟨[], .nil _, run, r, ?_, options, policy, ?_⟩
      · simp [other, first]
      · rw [List.append_nil]
        exact keeps
    | recorder r' =>
      obtain rfl : i = 0 := by
        apply sole
        simp [writers, found, Listener.isRecorder]
      rw [first] at found
      cases found
      obtain ⟨new, attempted, same, kept⟩ := keeps.work going now
      have within := (Array.getElem?_eq_some_iff.mp first).1
      exact ⟨new, attempted, attempted.run.trans run, (r.work now a.ledger).1,
        by simp [Listener.work, within], same.options.trans options,
        same.policy.trans policy, kept⟩

theorem Records.add (records : a.Records c store told log) (l : Listener) :
    (a.add l).Records c store told log := by
  obtain ⟨run, r, first, given⟩ := records
  have within := (Array.getElem?_eq_some_iff.mp first).1
  refine ⟨run, r, ?_, given⟩
  rw [Audience.add, Array.getElem?_push, if_neg (Nat.ne_of_lt within), first]

theorem Records.of_ledger (records : a.Records c store told log)
    (listeners : a'.listeners = a.listeners) (same_policy : a'.policy = a.policy)
    (run : a'.ledger.run = a.ledger.run) (kept : a'.ledger.store = a.ledger.store)
    (dropped : a'.ledger.dropped = a.ledger.dropped) : a'.Records c store told log := by
  obtain ⟨same, r, first, options, policy, keeps⟩ := records
  refine ⟨run.trans same, r, by rw [listeners, first], options, by rw [same_policy, policy],
    keeps.opens, ?_⟩
  rw [run, kept, dropped]
  exact keeps.progress

theorem writers_add (a : Audience) (l : Listener) :
    (a.add l).writers = a.writers ++ [l.isRecorder] := by
  simp [writers, add]

theorem Sole.of_add {l : Listener} (sole : (a.add l).Sole) : a.Sole := by
  intro i found
  apply sole
  have within := (List.getElem?_eq_some_iff.mp found).1
  rwa [writers_add, List.getElem?_append_left within]

theorem Sole.add {l : Listener} (sole : a.Sole) (silent : l.isRecorder = false) : (a.add l).Sole := by
  intro i found
  rw [writers_add, List.getElem?_append] at found
  split at found
  · exact sole i found
  · obtain ⟨_, last⟩ := List.getElem?_eq_some_iff.mp found
    simp [silent] at last

theorem Sole.of_alone (alone : a.writers = [true]) : a.Sole := by
  intro i found
  rw [alone] at found
  simpa using (List.getElem?_eq_some_iff.mp found).1

theorem Sole.of_writers (sole : a'.Sole) (same : a'.writers = a.writers) : a.Sole := by
  rwa [Sole, ← same]

end Audience

namespace Rehearsal
variable {c : RunContext} {store : Option RecordStore} {told news : List Notice}
  {log : List LoggedWrite} {a a' : Audience}

theorem Hears.writers (hears : Hears a news a') : a'.writers = a.writers := by
  induction hears with
  | refl => rfl
  | told before n ih => rw [Audience.writers_tell, ih]
  | worked before now i ih => rw [Audience.writers_work, ih]

theorem Hears.records (hears : Hears a news a') (records : a.Records c store told log) (sole : a.Sole)
    (going : Going ((told ++ news).map Notice.toTransition)) :
    ∃ new, Attempted a.ledger new a'.ledger ∧ a'.Records c store (told ++ news) (log ++ new) := by
  induction hears with
  | refl => exact ⟨[], .nil _, by simpa using records⟩
  | @told a' news before n ih =>
    rw [← List.append_assoc] at going ⊢
    obtain ⟨new, attempted, kept⟩ := ih (going.of_prefix ((List.prefix_append _ _).map _))
    exact ⟨new, attempted, kept.tell going⟩
  | @worked a' news before now i ih =>
    obtain ⟨new, attempted, kept⟩ := ih going
    have sole' : a'.Sole := by
      rw [Audience.Sole, before.writers]
      exact sole
    obtain ⟨more, later, still⟩ := kept.work sole' going now i
    exact ⟨new ++ more, attempted.trans later, by rwa [← List.append_assoc]⟩

/-- How a scene stands to the record of its run, if this has been told of it and these attempts have
been made in all. -/
structure Recorded (c : RunContext) (store : Option RecordStore) (told : List Notice)
    (log : List LoggedWrite) (s : Scene) : Prop where
  storied : Storied s.run
  begun : s.run.story ≠ []
  whole : told.map Notice.toTransition = heard s.run.story
  clocked : s.audience.Clocks told
  records : s.audience.Records c store told log

section
variable {calm : Prop} {exchanged : List Exchange} {s s' s₀ : Scene}

theorem going_heard {story : List Transition} (going : Going story) (begun : story ≠ []) :
    Going (heard story) := by
  cases story with
  | nil => exact absurd rfl begun
  | cons first rest =>
    cases rest with
    | nil => simp [Going, heard]
    | cons t rest =>
      intro t' mem
      rw [heard, List.tail_cons, List.dropLast_cons_cons] at mem
      rcases List.mem_cons.mp mem with rfl | later
      · rfl
      · apply going t'
        rw [List.dropLast_cons_cons]
        exact List.mem_cons_of_mem _ later

theorem heard_append {story news : List Transition} (begun : story ≠ []) :
    heard (story ++ news) = heard story ++ news := by
  cases story with
  | nil => exact absurd rfl begun
  | cons first rest => rfl

theorem Recorded.hears (recorded : Recorded c store told log s₀) (sole : s₀.audience.Sole)
    (hears : Hears s₀.audience news s.audience)
    (goes_on : s.run.story = s₀.run.story ++ news.map Notice.toTransition)
    (clocked : s₀.audience.Clocks news) (storied : Storied s.run) :
    ∃ new, Attempted s₀.audience.ledger new s.audience.ledger ∧
      Recorded c store (told ++ news) (log ++ new) s := by
  have begun : s.run.story ≠ [] := by simp [goes_on, recorded.begun]
  have whole : (told ++ news).map Notice.toTransition = heard s.run.story := by
    rw [goes_on, heard_append recorded.begun, List.map_append, recorded.whole]
  have going := going_heard storied.going begun
  rw [← whole] at going
  obtain ⟨new, attempted, records⟩ := hears.records recorded.records sole going
  refine ⟨new, attempted, storied, begun, whole, ?_, records⟩
  rw [Audience.Clocks, hears.clock]
  exact List.forall_mem_append.mpr ⟨recorded.clocked, clocked⟩

theorem keeps_added (options : RunOptions) (policy : RetryPolicy) (secs : Int64) {l : Ledger}
    (none_dropped : l.dropped = 0) :
    (Recorder.added options policy (.added .alive none secs)).Keeps l.store
      [⟨⟨none, .alive, none⟩, secs⟩] [] l where
  opens _ := rfl
  progress := by
    rw [none_dropped]
    exact .free (List.nil_append _).symm .nothing

theorem recorded_record {run : Run} {before : Scene} (accepted : c.flow.Accepted)
    (blank : Blank calm c s₀)
    (course : Staged calm (Operation.start (.starting c)) s₀ exchanged (.done run (.ok ())) none before)
    (reordered : Reordered (before.see run) s) :
    Recorded c s₀.audience.ledger.store [⟨⟨none, .alive, none⟩, s.secs⟩] [] s.record ∧
      s.record.audience.ledger = s₀.audience.ledger ∧ s.record.audience.writers = [true] := by
  have reached : Reached c exchanged run := .started course.leads
  have storied := reached.storied accepted
  have story := story_start course.leads
  have alive : run.state = .alive := by
    rw [storied.path.last_eq, story]
    rfl
  have uncaused : run.cause = none := by
    rw [storied.cause, story]
    rfl
  have here : s.run = run := reordered.run.trans (Aloof.see before run).run
  have same : s.record.run = run := (Aloof.listen s _).run.trans here
  have before_it := audience_of_started blank course reordered
  have added : s.record.audience = s₀.audience.add (.recorder (.added c.options
      s₀.audience.policy (.added .alive none s.secs))) := by
    rw [Scene.record, audience_listen, Scene.inbox, before_it, here, alive, uncaused,
      (sound_of_accepted accepted reached).context]
  have first : s.record.audience.listeners = #[.recorder (.added c.options
      s₀.audience.policy (.added .alive none s.secs))] := by
    rw [added, Audience.add, blank.unheard]
    rfl
  have ledger : s.record.audience.ledger = s₀.audience.ledger := by rw [added]; rfl
  refine ⟨⟨same ▸ storied, by simp [same, story], by rw [same, story]; rfl, ?_,
    ⟨ledger ▸ blank.unwritten.1, _, by rw [first]; rfl, rfl, by rw [added]; rfl, ?_⟩⟩, ledger,
    by rw [Audience.writers, first]; rfl⟩
  · rw [added]
    exact List.forall_mem_singleton.mpr ⟨s.audience.past + s.now, by rw [Scene.secs, before_it]; rfl⟩
  · rw [ledger]
    exact keeps_added _ _ _ blank.unwritten.2.2.2

theorem Between.recorded (step : Between calm s s') (recorded : Recorded c store told log s)
    (traces : s.audience.ledger.Traces log) (sole : s.audience.Sole) :
    ∃ log', s'.audience.ledger.Traces log' ∧ Recorded c store told log' s' := by
  obtain ⟨storied, begun, hears, clocked, records⟩ := recorded
  cases step with
  | meanwhile step =>
    have same := step.aloof.run
    obtain ⟨new, attempted, recorded⟩ := Recorded.hears ⟨storied, begun, hears, clocked, records⟩ sole
      step.hears (by rw [same, List.map_nil, List.append_nil]) (List.forall_mem_nil _)
      (same ▸ storied)
    rw [List.append_nil] at recorded
    exact ⟨log ++ new, traces.attempted attempted, recorded⟩
  | passed time => exact ⟨log, traces, storied, begun, hears, clocked, records⟩
  | left => exact ⟨log, traces, storied, begun, hears, clocked, records⟩
  | listened l =>
    have same : (s.listen l).run = s.run := (Aloof.listen s l).run
    refine ⟨log, ?_, same ▸ storied, same ▸ begun, same ▸ hears, ?_, ?_⟩
    · rwa [audience_listen]
    · rwa [audience_listen]
    · rw [audience_listen]
      exact records.add l
  | noted past =>
    exact ⟨log, ⟨List.nil_suffix, traces.count⟩, storied, begun, hears, clocked,
      records.of_ledger rfl rfl rfl rfl rfl⟩
  | refused refuses delays =>
    exact ⟨log, ⟨traces.kept, traces.count⟩, storied, begun, hears, clocked,
      records.of_ledger rfl rfl rfl rfl rfl⟩
  | planned faults restless => exact ⟨log, traces, storied, begun, hears, clocked, records⟩

theorem Between.sole (step : Between calm s s') (sole : s'.audience.Sole) : s.audience.Sole := by
  cases step with
  | meanwhile step =>
    rw [Audience.Sole, ← step.hears.writers]
    exact sole
  | listened l =>
    rw [audience_listen] at sole
    exact sole.of_add
  | passed | left | noted | refused | planned => exact sole

theorem writers_staged {request : RunRequest} {b : Activity RunAnswer} {fate : Option Fate}
    {exchanged' : List Exchange}
    (course : Staged calm (request.operation s₀.run) s₀ exchanged' b fate s) :
    s.audience.writers = s₀.audience.writers := by
  obtain ⟨_, hears, _⟩ := course.told (Operation.unfolds_request request s₀.run)
  exact hears.writers

theorem Recorded.staged {request : RunRequest} {b : Activity RunAnswer} {fate : Option Fate}
    {exchanged' : List Exchange} (accepted : c.flow.Accepted) (reached : Reached c exchanged s₀.run)
    (recorded : Recorded c store told log s₀) (sole : s₀.audience.Sole)
    (course : Staged calm (request.operation s₀.run) s₀ exchanged' b fate s) :
    ∃ news new, Attempted s₀.audience.ledger new s.audience.ledger ∧
      Recorded c store (told ++ news) (log ++ new) s ∧ Onward s.run b.run := by
  obtain ⟨news, hears, story, clocked, since, later⟩ := course.told (Operation.unfolds_request request s₀.run)
  have whole : Storied b.run := reached.storied_of_leads accepted course.leads
  have storied : Storied s.run :=
    .of_onward (reached.onward.trans since) (whole.lawful.of_prefix later.onward.story_prefix)
  obtain ⟨new, attempted, recorded⟩ := recorded.hears sole hears story clocked storied
  exact ⟨news, new, attempted, recorded, later.onward⟩

theorem Recorded.answered {request : RunRequest} {run : Run} {answer : RunAnswer}
    {exchanged' : List Exchange} (accepted : c.flow.Accepted) (reached : Reached c exchanged s₀.run)
    (recorded : Recorded c store told log s₀) (sole : s₀.audience.Sole)
    (course : Staged calm (request.operation s₀.run) s₀ exchanged' (.done run answer) none s) :
    ∃ news new, Attempted s₀.audience.ledger new (s.see run).audience.ledger ∧
      Recorded c store (told ++ news) (log ++ new) (s.see run) := by
  obtain ⟨earlier, new, attempted, still, onward⟩ := recorded.staged accepted reached sole course
  have onward : Onward s.run run := onward
  obtain ⟨news, hears, story, clocked⟩ := hears_onward onward
  have same : (s.see run).run = run := (Aloof.see s run).run
  have storied : Storied run := reached.storied_of_leads accepted course.leads
  obtain ⟨more, later, ended⟩ := still.hears (sole.of_writers (writers_staged course).symm) hears
    (by rw [same, story]) clocked (by rwa [same])
  refine ⟨earlier ++ news, new ++ more, attempted.trans later, ?_⟩
  rwa [← List.append_assoc, ← List.append_assoc]

theorem Rehearsed.recorded (accepted : c.flow.Accepted) (rehearsed : Rehearsed calm c exchanged s)
    (sole : s.audience.Sole) :
    ∃ store told log, s.audience.ledger.Traces log ∧ Recorded c store told log s := by
  induction rehearsed with
  | started blank course reordered =>
    obtain ⟨recorded, ledger, _⟩ := recorded_record accepted blank course reordered
    refine ⟨_, _, [], ⟨?_, ?_⟩, recorded⟩
    · simp [ledger, blank.unwritten.2.2.1]
    · simp [ledger, blank.unwritten.2.1]
  | @answered s₀ s log log' request run answer before course ih =>
    have reached := (before.told accepted).reached
    have seen : (s.see run).audience.writers = s₀.audience.writers :=
      (hears_see s run).writers.trans (writers_staged course)
    have sole₀ := sole.of_writers seen
    obtain ⟨store, told, log, traces, recorded⟩ := ih sole₀
    obtain ⟨news, new, attempted, still⟩ := recorded.answered accepted reached sole₀ course
    exact ⟨store, told ++ news, log ++ new, traces.attempted attempted, still⟩
  | between before step ih =>
    obtain ⟨store, told, log, traces, recorded⟩ := ih (step.sole sole)
    obtain ⟨log', still⟩ := step.recorded recorded traces (step.sole sole)
    exact ⟨store, told, log', still⟩

theorem Onstage.recorded (accepted : c.flow.Accepted) (onstage : Onstage calm c exchanged s)
    (heeded : s.audience.listeners ≠ #[]) (sole : s.audience.Sole) :
    ∃ store told log, s.audience.ledger.Traces log ∧ Recorded c store told log s := by
  cases onstage with
  | starting blank course =>
    rw [(audience_of_starting blank course).1] at heeded
    exact absurd blank.unheard heeded
  | resting rehearsed => exact rehearsed.recorded accepted sole
  | busy before course =>
    have sole₀ := sole.of_writers (writers_staged course)
    obtain ⟨store, told, log, traces, recorded⟩ := before.recorded accepted sole₀
    obtain ⟨news, new, attempted, still, _⟩ :=
      recorded.staged accepted (before.told accepted).reached sole₀ course
    exact ⟨store, told ++ news, log ++ new, traces.attempted attempted, still⟩

end
end Rehearsal
end FlowRuntime
