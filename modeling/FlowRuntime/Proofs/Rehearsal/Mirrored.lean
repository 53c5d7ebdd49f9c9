import FlowRuntime.Proofs.Rehearsal.Broadcast
import FlowRuntime.Proofs.Rehearsal.Recorded

/-!
The record mirrors the run. Of plans we verify that their recorders go from one interval to
the next as the scenes between them do, so that the attempts of all their accounts are those
that it takes to write the story of the run. In whatever scene the recorder has nothing left
to do, the record shows how the run stands, unless a write was dropped; and if it is only given
its turns, it has nothing left to do some time after the end of the run.
-/
namespace FlowRuntime

def Recorder.Settled (r : Recorder) : Prop := r.inbox.pending = [] ∧ r.writing = none

namespace Rehearsal
variable {calm : Prop} {c : RunContext} {exchanged : List Exchange} {store : Option RecordStore}
  {told : List Notice} {log : List LoggedWrite} {s s' : Scene}

/-- These attempts are what it takes to write the whole story of the run, as it was told. If there is a store and
nothing was dropped, the record shows how the run stands; if there was no record before, there is
one unless everything was dropped. -/
structure WrittenOut (c : RunContext) (store : Option RecordStore) (told : List Notice)
    (attempts : List LoggedWrite) (s : Scene) : Prop where
  written : Written c.run s.audience.policy.most store (c.writes s.run.cause told) attempts
    s.audience.ledger.dropped s.audience.ledger.store
  shown : s.audience.ledger.dropped = 0 → store.isSome → ∀ status,
    RunStatus.ofState? s.run.state = some status → ∃ records,
      s.audience.ledger.store = some records ∧
      RecordStore.get? records c.run = .ok (some (c.record s.run told status))
  begun : ∀ before, store = some before → RecordStore.get? before c.run = .ok none →
    ∃ records, s.audience.ledger.store = some records ∧
      ((∃ record, RecordStore.get? records c.run = .ok (some record) ∧ record.run = c.run) ∨
        records = before ∧ s.audience.ledger.dropped = (c.writes s.run.cause told).length)

/-- The recorder is the first who listens, and was told this, at times that the clock has shown. So far
it has written the beginning of the story, by these attempts; when it has nothing left to do, it has
written all of it. -/
structure Mirrored (c : RunContext) (store : Option RecordStore) (told : List Notice)
    (attempts : List LoggedWrite) (s : Scene) (r : Recorder) : Prop where
  first : s.audience.listeners[0]? = some (.recorder r)
  whole : told.map Notice.toTransition = heard s.run.story
  clocked : s.audience.Clocks told
  partly : PartlyWritten c.run s.audience.policy.most store (c.writes s.run.cause told)
    attempts s.audience.ledger.dropped s.audience.ledger.store
  settled : r.Settled → WrittenOut c store told attempts s

theorem Recorded.mirrored (recorded : Recorded c store told log s)
    (named : c.run.run = c.options.runId) : ∃ r, Mirrored c store told log s r := by
  obtain ⟨storied, begun, whole, clocked, run, r, first, options, policy, keeps⟩ := recorded
  have writes : told.filterMap (RecordWrite.ofNotice? c.options) = c.writes s.run.cause told :=
    storied.filterMap_heard begun named whole
  rw [← options] at writes
  have partly := keeps.partly_written
  rw [writes, run, policy] at partly
  refine ⟨r, first, whole, clocked, partly, fun ⟨nothing_pending, nothing_waiting⟩ => ?_⟩
  have written := keeps.written nothing_pending nothing_waiting
  rw [writes, run, policy] at written
  refine ⟨written, fun none_dropped kept status shown => ?_, fun before kept absent => ?_⟩
  · have made : (c.writes s.run.cause told).tail.foldl RecordWrite.amend c.firstRecord
        = c.record s.run told status := storied.foldl_amend begun whole shown
    obtain ⟨records, still⟩ := Option.isSome_iff_exists.mp (written.isSome_store.trans kept)
    rw [none_dropped, still] at written
    rw [← made]
    exact ⟨records, still, written.record⟩
  · rw [kept] at written
    exact written.record_or_lost absent

theorem Mirrored.shows_stop {attempts : List LoggedWrite} {r : Recorder}
    (mirrored : Mirrored c store told attempts s r) (settled : r.Settled)
    (stopped : s.run.state = .stopped) (none_dropped : s.audience.ledger.dropped = 0)
    (kept : s.audience.ledger.store.isSome) :
    ∃ records record ms, s.audience.ledger.store = some records ∧
      RecordStore.get? records c.run = .ok (some record) ∧ record.status = .killed ∧
      record.stopSecs = some (s.audience.clock ms) := by
  have written := mirrored.settled settled
  obtain ⟨records, still, found⟩ := written.shown none_dropped
    (written.written.isSome_store ▸ kept) .killed (by rw [stopped]; rfl)
  have heard_some : told ≠ [] := by
    rintro rfl
    cases mirrored.whole
  have last := List.getLast?_eq_some_getLast heard_some
  obtain ⟨ms, shown⟩ := mirrored.clocked _ (List.getLast_mem heard_some)
  refine ⟨records, _, ms, still, found, rfl, ?_⟩
  rw [RunContext.record, stopped, List.getLast?_map, last, ← shown]
  rfl

/-! ### Plans -/

theorem Recorded.reordered (recorded : Recorded c store told log s) (reordered : Reordered s s') :
    Recorded c store told log s' := by
  obtain ⟨storied, begun, whole, clocked, records⟩ := recorded
  have run := reordered.run
  have audience := (Unheard.ofReordered reordered).audience
  exact ⟨run ▸ storied, run ▸ begun, run ▸ whole, audience ▸ clocked, audience ▸ records⟩

theorem Recorded.listen (recorded : Recorded c store told log s) (l : Listener) :
    Recorded c store told log (s.listen l) := by
  obtain ⟨storied, begun, whole, clocked, records⟩ := recorded
  have same : (s.listen l).run = s.run := (Aloof.listen s l).run
  have audience := audience_listen s l
  exact ⟨same ▸ storied, same ▸ begun, same ▸ whole, audience ▸ clocked, audience ▸ records.add l⟩

theorem Recorded.settle (recorded : Recorded c store told log s) (sole : s.audience.Sole) :
    ∃ new, Attempted s.audience.ledger new s.settle.audience.ledger ∧
      Recorded c store told (log ++ new) s.settle ∧ s.settle.audience.Sole := by
  have hears := (lull_settle s).hears
  have same : s.settle.run = s.run := (aloof_settle s).run
  obtain ⟨new, attempted, still⟩ := recorded.hears sole hears
    (by rw [same, List.map_nil, List.append_nil]) (List.forall_mem_nil _)
    (by rw [same]; exact recorded.storied)
  rw [List.append_nil] at still
  exact ⟨new, attempted, still, sole.of_writers hears.writers.symm⟩

theorem recorded_listenAll (listeners : List (String × List (Option Nat)))
    (recorded : Recorded c store told log s) (sole : s.audience.Sole) :
    Recorded c store told log (listeners.foldl (fun s l => s.listenFor l.1 none l.2) s) ∧
      (listeners.foldl (fun s l => s.listenFor l.1 none l.2) s).audience.Sole ∧
      (listeners.foldl (fun s l => s.listenFor l.1 none l.2) s).audience.ledger
        = s.audience.ledger := by
  induction listeners generalizing s with
  | nil => exact ⟨recorded, sole, rfl⟩
  | cons l rest ih =>
    have audience := audience_listen s (.hearer (.added l.1 none l.2 s.inbox))
    have listened := recorded.listen (.hearer (.added l.1 none l.2 s.inbox))
    obtain ⟨still, alone, ledger⟩ := ih listened (by rw [audience]; exact sole.add rfl)
    exact ⟨still, alone, by rw [List.foldl_cons, Scene.listenFor, ledger, audience]; rfl⟩

theorem Plan.recorded_start {p : Plan} (accepted : c.flow.Accepted)
    (found : (p.start c).2.finding = some (.outcome (.ok ()))) :
    (∃ told, Recorded c p.store told (p.start c).2.writes (p.start c).1.scene) ∧
      (p.start c).1.scene.audience.Sole := by
  obtain ⟨exchanged, run, x, before, s, same, course, reordered, _, closed⟩ :=
    Plan.played_start accepted False.elim found
  cases same
  have blank : Blank False c (p.opening c) := blank_opening p c False.elim
  obtain ⟨recorded, ledger, writers⟩ := recorded_record accepted blank course reordered
  obtain ⟨listened, sole, kept⟩ := recorded_listenAll p.listeners recorded (.of_alone writers)
  obtain ⟨new, attempted, settled, sole⟩ := listened.settle sole
  have written : (p.start c).2.writes = new := by
    rw [closed]
    exact attempted.log.trans (by rw [kept, ledger]; rfl)
  rw [written, closed]
  exact ⟨⟨_, settled⟩, sole⟩

theorem Paused.recorded_play {i : Interval} (accepted : c.flow.Accepted)
    (paused : Paused calm c exchanged i.scene) (recorded : Recorded c store told log i.scene)
    (sole : i.scene.audience.Sole) (request : RunRequest) {finding : Finding}
    (found : (i.play (.one (.turn request))).2.finding = some finding) :
    (∃ news, Recorded c store (told ++ news) (log ++ (i.play (.one (.turn request))).2.writes)
        (i.play (.one (.turn request))).1.scene) ∧
      (i.play (.one (.turn request))).1.scene.audience.Sole := by
  obtain ⟨s₀, exchanged', run, answer, before, s, rehearsed, resumed, course, _, reordered, _,
    _, closed⟩ := paused.played accepted request found
  have begun : Recorded c store told log i.resume :=
    ⟨recorded.storied, recorded.begun, recorded.whole, recorded.clocked,
      recorded.records.of_ledger rfl rfl rfl rfl rfl⟩
  have same : s₀.audience = i.resume.audience := (Unheard.ofReordered resumed).audience
  have sole₀ : s₀.audience.Sole := same ▸ sole
  have reached := (rehearsed.told accepted).reached
  obtain ⟨news, new, attempted, answered⟩ :=
    (begun.reordered resumed).answered accepted reached sole₀ course
  have heard := (Unheard.ofReordered reordered).audience
  have sole' : s.audience.Sole := by
    rw [heard]
    exact sole₀.of_writers ((hears_see before run).writers.trans (writers_staged course)).symm
  obtain ⟨more, later, settled, alone⟩ := (answered.reordered reordered).settle sole'
  have written : (i.play (.one (.turn request))).2.writes = new ++ more := by
    have log : (i.play (.one (.turn request))).2.writes
        = (i.play (.one (.turn request))).1.scene.audience.ledger.log := rfl
    rw [log, closed, later.log, heard, attempted.log, same]
    rfl
  rw [written, closed, ← List.append_assoc]
  exact ⟨⟨news, settled⟩, alone⟩

def Plan.attempts (p : Plan) (c : RunContext) (requests : List RunRequest) : List LoggedWrite :=
  (p.start c).2.writes ++ (p.asked c requests).2.flatMap (·.writes)

theorem Paused.recorded_playAll {i : Interval} (accepted : c.flow.Accepted)
    (paused : Paused calm c exchanged i.scene) (recorded : Recorded c store told log i.scene)
    (sole : i.scene.audience.Sole) (requests : List RunRequest)
    (answered : ∀ a ∈ (i.playAll (requests.map fun r => .one (.turn r))).2, a.finding.isSome) :
    ∃ news, Recorded c store (told ++ news)
      (log ++ (i.playAll (requests.map fun r => .one (.turn r))).2.flatMap (·.writes))
      (i.playAll (requests.map fun r => .one (.turn r))).1.scene := by
  induction requests generalizing exchanged told log i with
  | nil => exact ⟨[], by simpa [Interval.playAll] using recorded⟩
  | cons r rest ih =>
    rw [List.map_cons, Interval.playAll] at answered ⊢
    dsimp only at answered ⊢
    cases found : (i.play (.one (.turn r))).2.finding with
    | none => simp [found] at answered
    | some finding =>
      simp only [found, Option.isNone_some, Bool.false_eq_true, if_false] at answered ⊢
      obtain ⟨_, _, _, _, _, _, next⟩ := paused.play accepted r found
      obtain ⟨⟨news, played⟩, alone⟩ := paused.recorded_play accepted recorded sole r found
      obtain ⟨more, later⟩ := ih next played alone fun a mem => answered a (List.mem_cons_of_mem _ mem)
      refine ⟨news ++ more, ?_⟩
      rwa [List.flatMap_cons, ← List.append_assoc, ← List.append_assoc]

theorem Plan.recorded_asked (p : Plan) (requests : List RunRequest) (accepted : c.flow.Accepted)
    (answered : p.Answered c requests) :
    ∃ told, Recorded c p.store told (p.attempts c requests) (p.asked c requests).1.scene := by
  obtain ⟨⟨told, started⟩, sole⟩ := Plan.recorded_start accepted answered.1
  obtain ⟨log, paused⟩ : ∃ log, Paused False c log (p.start c).1.scene :=
    p.paused_start accepted False.elim answered.1
  obtain ⟨news, recorded⟩ := paused.recorded_playAll accepted started sole requests answered.2
  exact ⟨told ++ news, recorded⟩

theorem Recorded.isSome_store (recorded : Recorded c store told log s) :
    s.audience.ledger.store.isSome = store.isSome := by
  obtain ⟨_, _, _, _, _, r, _, _, _, keeps⟩ := recorded
  obtain ⟨_, _, _, _, _, _, _, written, _⟩ := keeps.partly_written
  exact written.isSome_store

theorem Recorded.caught_up {r : Recorder} {w : Writing} (recorded : Recorded c store told log s)
    (first : s.audience.listeners[0]? = some (.recorder r)) (writing : r.writing = some w)
    (pause : w.stay.pause = .backoff) (up : isUp s.now w.stay.dueAt = true)
    (begun : ∀ secs given own, w.write ≠ .start secs given own) (none_dropped : s.audience.ledger.dropped = 0)
    (accepts : ∀ i < r.inbox.pending.length + 1,
      s.audience.ledger.refuses (s.audience.ledger.attempts + i) = false ∧
        s.audience.ledger.delays (s.audience.ledger.attempts + i) = some 0) :
    ∃ r', (s.listenerWorks 0).audience.listeners[0]? = some (.recorder r') ∧ r'.Settled ∧
      (s.listenerWorks 0).audience.ledger.dropped = 0 := by
  obtain ⟨storied, opened, whole, _, _, r', here, _, _, keeps⟩ := recorded
  rw [first] at here
  cases here
  obtain ⟨secs, rest, rfl, _, _⟩ := storied.first_heard opened whole
  have other : RecordWrite.ofNotice? r.options ⟨⟨none, .alive, none⟩, secs⟩ ≠ some w.write :=
    fun same => begun _ _ _ (Option.some.inj same).symm
  have willing : Recorder.Willing s.audience.ledger (r.inbox.pending.length + 1) :=
    ⟨accepts, fun _ kept => keeps.found rfl none_dropped writing other kept⟩
  obtain ⟨r', l', worked, nothing_pending, nothing_waiting, dropped⟩ :=
    willing.work writing pause up (Nat.le_refl _)
  have audience : (s.listenerWorks 0).audience = { s.audience with
      listeners := s.audience.listeners.setIfInBounds 0 (.recorder r'), ledger := l' } := by
    rw [(Unheard.ofReordered (.listenerWorks s 0)).audience]
    simp only [Audience.work, first, Listener.work, worked]
  have within := (Array.getElem?_eq_some_iff.mp first).1
  rw [audience]
  exact ⟨r', by simp [within], ⟨nothing_pending, nothing_waiting⟩, dropped.trans none_dropped⟩

theorem Plan.Comes.playAll {p : Plan} {i : Interval} (comes : p.Comes c i) (requests : List RunRequest)
    (answered : ∀ a ∈ (i.playAll (requests.map fun r => .one (.turn r))).2, a.finding.isSome) :
    p.Comes c (i.playAll (requests.map fun r => .one (.turn r))).1 := by
  induction requests generalizing i with
  | nil => exact comes
  | cons r rest ih =>
    rw [List.map_cons, Interval.playAll] at answered ⊢
    dsimp only at answered ⊢
    cases found : (i.play (.one (.turn r))).2.finding with
    | none => simp [found] at answered
    | some finding =>
      simp only [found, Option.isNone_some, Bool.false_eq_true, if_false] at answered ⊢
      exact ih (comes.played found) fun a mem => answered a (List.mem_cons_of_mem _ mem)

theorem Plan.comes_asked {p : Plan} {requests : List RunRequest} (answered : p.Answered c requests) :
    p.Comes c (p.asked c requests).1 :=
  (Plan.Comes.started (Account.isGranted_iff.mpr answered.1)).playAll requests answered.2

/-- Some time after the end of the run, nothing is left to be done by a recorder. -/
theorem Airing.settles {scenes : Nat → Scene} {n : Nat} (airing : Airing c scenes)
    (accepted : c.flow.Accepted) (ended : (scenes n).run.state.isTerminal = true)
    (heeded : (scenes n).audience.listeners ≠ #[]) :
    ∃ m, ∀ m', m ≤ m' → ∀ r, (scenes m').audience.listeners[0]? = some (.recorder r) → r.Settled := by
  have first : 0 < (scenes n).audience.listeners.size := Array.size_pos_iff.mpr heeded
  obtain ⟨m, ends⟩ := airing.ends accepted ended (Array.getElem?_eq_getElem first)
  refine ⟨m, ?_⟩
  intro m' later r found
  obtain ⟨l, here, done⟩ := ends m' later
  rw [found] at here
  cases here
  obtain ⟨_, _, _, _, _, receives⟩ := airing.receives accepted found
  obtain ⟨closed, _, shows⟩ := receives.settled done
  have closed : r.inbox = .closed := closed
  cases shows with
  | idle _ idle => exact ⟨by rw [closed]; rfl, idle⟩

/-- The record mirrors the run: as soon as there is anyone who listens, the attempts that have been
made are those that it takes to write the story of the run up to where it stands. -/
theorem record_mirrors_run {program : Program} {options : RunOptions}
    (made : RunContext.ofProgram program options = .ok c) :
    (∀ (calm : Prop) exchanged s, Onstage calm c exchanged s → s.audience.listeners ≠ #[] →
      s.audience.Sole → ∃ store told attempts r, s.audience.ledger.Traces attempts ∧
        Mirrored c store told attempts s r) ∧
    (∀ (p : Plan) requests, p.Answered c requests →
      ∃ told r, Mirrored c p.store told (p.attempts c requests) (p.asked c requests).1.scene r) ∧
    ∀ scenes n, Airing c scenes → (scenes n).run.state.isTerminal = true →
      (scenes n).audience.listeners ≠ #[] → ∃ m, ∀ m', m ≤ m' →
        ∀ store told attempts r, Mirrored c store told attempts (scenes m') r →
          r.Settled ∧ WrittenOut c store told attempts (scenes m') := by
  have accepted := RunContext.accepted_of_ofProgram made
  have named : c.run.run = c.options.runId := by
    obtain ⟨flow, _, rfl⟩ := RunContext.ofProgram_ok_iff.mp made
    rfl
  refine ⟨?_, ?_, ?_⟩
  · intro calm exchanged s onstage heeded sole
    obtain ⟨store, told, attempts, traces, recorded⟩ := onstage.recorded accepted heeded sole
    obtain ⟨r, mirrored⟩ := recorded.mirrored named
    exact ⟨store, told, attempts, r, traces, mirrored⟩
  · intro p requests answered
    obtain ⟨told, recorded⟩ := p.recorded_asked requests accepted answered
    obtain ⟨r, mirrored⟩ := recorded.mirrored named
    exact ⟨told, r, mirrored⟩
  · intro scenes n airing ended heeded
    obtain ⟨m, settles⟩ := airing.settles accepted ended heeded
    refine ⟨m, ?_⟩
    intro m' later store told attempts r mirrored
    have settled := settles m' later r mirrored.first
    exact ⟨settled, mirrored.settled settled⟩

/-! A run is suspended, resumed and stopped while the recorder waits before a further attempt, since the
store has refused some; the attempts that are left then all go through. -/

def patchyPlan : Plan :=
  { strayPlan with
    clock := fun _ => 60
    policy := ⟨20, 3⟩
    faults := []
    refuses := fun n => n < 2 || n = 3
    delays := fun n => if n = 2 then some 7 else some 0
    store := some .empty }

/-- A request is carried out, and nobody is given the time to come to an end after it. -/
def Scene.hurried (s : Scene) (request : RunRequest) : Scene :=
  ((⟨s, .empty⟩ : Interval).resume.play (.ofStep 0 0 (.one (.turn request)))).2.leave

theorem Paused.hurried {log : List Exchange} (paused : Paused calm c log s) (accepted : c.flow.Accepted)
    {request : RunRequest}
    (found : ((⟨s, .empty⟩ : Interval).play (.one (.turn request))).2.finding.isSome) :
    ∃ log', Paused calm c log' (s.hurried request) := by
  obtain ⟨finding, found⟩ := Option.isSome_iff_exists.mp found
  have paused : Paused calm c log (⟨s, .empty⟩ : Interval).scene := paused
  obtain ⟨log', left⟩ := paused.left accepted request found
  exact ⟨log ++ log', left⟩

def patchyOpening : Scene := (patchyPlan.start pairContext).1.scene

def patchySuspended : Scene := patchyOpening.hurried .suspend

def patchyResumed : Scene := patchySuspended.hurried .resume

def patchyStopped : Scene := patchyResumed.hurried .stop

def patchyEnd : Scene := { patchyStopped with now := 20 }.listenerWorks 0

theorem patchy_answered :
    (patchyPlan.start pairContext).2.isGranted ∧
      ((⟨patchyOpening, .empty⟩ : Interval).play (.one (.turn .suspend))).2.finding.isSome ∧
      ((⟨patchySuspended, .empty⟩ : Interval).play (.one (.turn .resume))).2.finding.isSome ∧
      ((⟨patchyResumed, .empty⟩ : Interval).play (.one (.turn .stop))).2.finding.isSome := by
  decide +kernel

/-- What has been left for it to do when the run is stopped. -/
def patchyBacklog : Recorder where
  options := patchyPlan.options
  policy := patchyPlan.policy
  inbox := ⟨[⟨⟨some .suspended, .resuming, none⟩, 60⟩, ⟨⟨some .resuming, .alive, none⟩, 60⟩,
    ⟨⟨some .alive, .stopping, none⟩, 60⟩, ⟨⟨some .stopping, .stopped, none⟩, 60⟩], false⟩
  writing := some ⟨.suspend, ⟨.backoff, some 20, 1⟩, false⟩
  isOver := false

theorem patchy_held_up :
    patchyStopped.audience.listeners = #[.recorder patchyBacklog] ∧
      patchyStopped.run.state = .stopped ∧ patchyStopped.audience.ledger.dropped = 0 ∧
      patchyStopped.audience.ledger.store.isSome ∧
      ∀ i < 5, patchyStopped.audience.ledger.refuses (patchyStopped.audience.ledger.attempts + i)
          = false ∧
        patchyStopped.audience.ledger.delays (patchyStopped.audience.ledger.attempts + i) = some 0 := by
  decide +kernel

theorem patchy_paused : ∃ log, Paused False pairContext log patchyStopped := by
  obtain ⟨started, suspended, resumed, stopped⟩ := patchy_answered
  have accepted := RunContext.accepted_of_ofProgram stray_made
  have opened : ∃ log, Paused False pairContext log patchyOpening := by
    unfold patchyOpening
    exact patchyPlan.paused_start accepted False.elim (Account.isGranted_iff.mp started)
  obtain ⟨log, opened⟩ := opened
  have first : ∃ log, Paused False pairContext log patchySuspended := by
    unfold patchySuspended
    exact opened.hurried accepted suspended
  obtain ⟨log, first⟩ := first
  have second : ∃ log, Paused False pairContext log patchyResumed := by
    unfold patchyResumed
    exact first.hurried accepted resumed
  obtain ⟨log, second⟩ := second
  unfold patchyStopped
  exact second.hurried accepted stopped

theorem patchy_made :
    RunContext.ofProgram patchyPlan.program patchyPlan.options = .ok pairContext := rfl

theorem patchy_settled :
    (∃ exchanged, Onstage False pairContext exchanged patchyEnd) ∧ patchyEnd.run.state = .stopped ∧
      patchyEnd.audience.writers = [true] ∧ patchyEnd.audience.ledger.dropped = 0 ∧
      patchyEnd.audience.ledger.store.isSome ∧
      ∃ r, patchyEnd.audience.listeners[0]? = some (.recorder r) ∧ r.Settled := by
  obtain ⟨listeners, stopped, none_dropped, kept, accepts⟩ := patchy_held_up
  have accepted := RunContext.accepted_of_ofProgram patchy_made
  have writers : patchyStopped.audience.writers = [true] := by
    rw [Audience.writers, listeners]
    rfl
  have first : patchyStopped.audience.listeners[0]? = some (.recorder patchyBacklog) := by
    rw [listeners]
    rfl
  obtain ⟨log, paused⟩ := patchy_paused
  unfold patchyEnd
  generalize patchyStopped = s at *
  have sole : s.audience.Sole := .of_alone writers
  obtain ⟨store, told, attempts, _, recorded⟩ := paused.rehearsed.recorded accepted sole
  have later : Recorded pairContext store told attempts { s with now := 20 } :=
    ⟨recorded.storied, recorded.begun, recorded.whole, recorded.clocked, recorded.records⟩
  obtain ⟨r, here, settled, dropped⟩ := later.caught_up first rfl rfl rfl (by simp)
    none_dropped accepts
  have works : Meanwhile { s with now := 20 } ({ s with now := 20 }.listenerWorks 0) := .heard _ 0
  have same : ({ s with now := 20 }.listenerWorks 0).run = s.run := works.aloof.run
  obtain ⟨_, _, ended⟩ := later.hears sole works.hears
    (by rw [same, List.map_nil, List.append_nil]) (List.forall_mem_nil _)
    (by rw [same]; exact recorded.storied)
  refine ⟨⟨log, .resting ((paused.rehearsed.between (.passed s 20)).between (.meanwhile works))⟩,
    same ▸ stopped, works.hears.writers.trans writers, dropped, ?_, r, here, settled⟩
  rw [ended.isSome_store, ← recorded.isSome_store]
  exact kept

/-! The same without a store, each time to the end of what there is to do. -/

def unkeptPlan : Plan :=
  { patchyPlan with
    clock := fun ms => .ofNat ms
    faults := [⟨.suspend, some "stage", some 1, ⟨some 3, none⟩, none⟩]
    store := none }

def unkeptRequests : List RunRequest := [.suspend, .resume, .stop]

def unkeptEnd : Interval := (unkeptPlan.asked pairContext unkeptRequests).1

theorem unkept_answered : unkeptPlan.Answered pairContext unkeptRequests := by decide +kernel

def unkeptWrites : List (RecordWrite × Nat × Bool) :=
  [(.start 0 .empty .empty, 0, false), (.start 0 .empty .empty, 20, false),
    (.start 0 .empty .empty, 40, true), (.suspend, 3, false), (.suspend, 23, true),
    (.resume, 0, true), (.stop 70 .killed none, 0, true)]

theorem unkept_attempts :
    (unkeptPlan.attempts pairContext unkeptRequests).map (fun a => (a.write, a.time, a.accepted)) =
      unkeptWrites := by
  decide +kernel

theorem unkept_over :
    unkeptEnd.scene.run.state = .stopped ∧
      unkeptEnd.scene.audience.listeners.size = 1 ∧
      unkeptEnd.scene.audience.listeners.all Listener.isOver = true := by
  decide +kernel

/-- In the one case, the record shows that the run was stopped and when; in the other, all that there was
to write has been attempted. -/
theorem patchy_recorded :
    (∃ records record ms, patchyEnd.audience.ledger.store = some records ∧
      RecordStore.get? records pairContext.run = .ok (some record) ∧ record.status = .killed ∧
      record.stopSecs = some (patchyEnd.audience.clock ms)) ∧
    (unkeptPlan.attempts pairContext unkeptRequests).map (fun a => (a.write, a.time, a.accepted)) =
      unkeptWrites ∧
    ∃ told r, Mirrored pairContext none told (unkeptPlan.attempts pairContext unkeptRequests)
        unkeptEnd.scene r ∧ r.Settled ∧
      WrittenOut pairContext none told (unkeptPlan.attempts pairContext unkeptRequests)
        unkeptEnd.scene := by
  refine ⟨?_, unkept_attempts, ?_⟩
  · obtain ⟨⟨exchanged, onstage⟩, stopped, writers, none_dropped, kept, r, first, settled⟩ :=
      patchy_settled
    have heeded : patchyEnd.audience.listeners ≠ #[] := by
      intro nobody
      rw [nobody] at first
      cases first
    obtain ⟨everywhere, _, _⟩ := record_mirrors_run patchy_made
    obtain ⟨store, told, attempts, r', _, mirrored⟩ :=
      everywhere False exchanged patchyEnd onstage heeded (.of_alone writers)
    have same : r' = r := Listener.recorder.inj (Option.some.inj (mirrored.first.symm.trans first))
    exact mirrored.shows_stop (same ▸ settled) stopped none_dropped kept
  · have accepted := RunContext.accepted_of_ofProgram patchy_made
    obtain ⟨_, plans, settles⟩ := record_mirrors_run patchy_made
    have mirrored : ∃ told r, Mirrored pairContext none told
        (unkeptPlan.attempts pairContext unkeptRequests) unkeptEnd.scene r := by
      unfold unkeptEnd
      exact plans unkeptPlan unkeptRequests unkept_answered
    obtain ⟨told, r, mirrored⟩ := mirrored
    have last : unkeptPlan.Stages pairContext unkeptEnd.scene := by
      unfold unkeptEnd
      exact .between (Plan.comes_asked unkept_answered)
    obtain ⟨stopped, alone, done⟩ := unkept_over
    obtain ⟨s₀, seen, nobody, aired⟩ :=
      unkeptPlan.aired accepted (Account.isGranted_iff.mpr unkept_answered.1)
    have aired := aired _ last
    refine ⟨told, r, mirrored, ?_⟩
    generalize unkeptEnd.scene = s at *
    generalize unkeptPlan.attempts pairContext unkeptRequests = attempts at *
    obtain ⟨scenes, n, airing, ends⟩ := exists_airing accepted aired seen nobody done
    have here : scenes n = s := ends n (Nat.le_refl n)
    have heeded : (scenes n).audience.listeners ≠ #[] := by
      rw [here]
      intro none_there
      rw [none_there] at alone
      cases alone
    obtain ⟨m, later⟩ := settles scenes n airing (by rw [here, stopped]; rfl) heeded
    have there : scenes (max m n) = s := ends _ (Nat.le_max_right m n)
    have settled := later (max m n) (Nat.le_max_left m n) none told attempts r
      (by rw [there]; exact mirrored)
    rwa [there] at settled

end Rehearsal
end FlowRuntime
