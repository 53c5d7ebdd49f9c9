import FlowRuntime.Proofs.Record.Store
import FlowRuntime.Proofs.Run.Story

/-!
The record mirrors the run. A record is begun with what the run was given, and then a write
is made of some of the changes of its story. We verify that what these writes make of the
record shows how the run stands, whatever story has led it there.
-/
namespace FlowRuntime

/-- What a record shows of a run in this state. Of a run that is stopping it shows what it was. -/
def RunStatus.ofState? : RunState → Option RunStatus
  | .alive | .suspending | .resuming => some .running
  | .suspended => some .suspended
  | .stopped => some .killed
  | .error => some .failed
  | .starting | .stopping => none

def RecordWrite.ofState? (secs : Int64) (cause : Option String) : RunState → Option RecordWrite
  | .suspended => some .suspend
  | .resuming => some .resume
  | .stopped => some (.stop secs .killed none)
  | .error => some (.stop secs .failed cause)
  | _ => none

namespace RunContext

/-- All that is to be written of a run that has ended, if it has, with this cause, for one who was told
all this of it. -/
def writes (c : RunContext) (cause : Option String) (told : List Notice) : List RecordWrite :=
  .start c.run.run.createdSecs c.options.systemArgs c.options.userArgs ::
    told.filterMap fun n => RecordWrite.ofState? n.secs cause n.target

def firstRecord (c : RunContext) : RunRecord :=
  ⟨c.run, c.run.run.createdSecs, none, .running, none, c.options.systemArgs, c.options.userArgs⟩

/-- The record of a run that stands like this, kept by one who was told all this of it. -/
def record (c : RunContext) (run : Run) (told : List Notice) (status : RunStatus) : RunRecord :=
  { c.firstRecord with
    stopSecs := if run.state.isTerminal then (told.map (·.secs)).getLast? else none
    status := status
    failure := run.cause }

end RunContext

/-- What one hears who listens to a run as soon as it has started. -/
def heard (story : List Transition) : List Transition := ⟨none, .alive, none⟩ :: story.tail

section
variable {c : RunContext} {run : Run} {told : List Notice}

theorem Storied.opened (storied : Storied run) (begun : run.story ≠ []) :
    ∃ rest, run.story = ⟨some .starting, .alive, none⟩ :: rest ∧ Path .alive rest run.state := by
  obtain ⟨path, _, lawful⟩ := storied
  generalize run.story = story at path lawful begun ⊢
  generalize run.state = state at path ⊢
  cases path with
  | here => exact absurd rfl begun
  | next target cause later =>
    cases lawful _ List.mem_cons_self with
    | started => exact ⟨_, rfl, later⟩
    | stopping going => rcases going with impossible | impossible <;> cases impossible

theorem Storied.cause_of_error (storied : Storied run) {t : Transition} (mem : t ∈ run.story)
    (failed : t.target = .error) : t.cause = run.cause := by
  have ended : run.story.getLast (List.ne_nil_of_mem mem) = t := by
    have whole := List.dropLast_append_getLast (List.ne_nil_of_mem mem)
    rw [← whole] at mem
    rcases List.mem_append.mp mem with before | last
    · have onward := storied.going t before
      simp [failed, RunState.isTerminal] at onward
    · exact (List.mem_singleton.mp last).symm
  have cause : run.cause = (t.cause <|> latestCause none run.story.dropLast) := by
    rw [storied.cause]
    conv_lhs => rw [← List.dropLast_append_getLast (List.ne_nil_of_mem mem), ended]
    rw [latestCause, List.foldl_append]
    rfl
  have lawful := storied.lawful t mem
  obtain ⟨source, target, given⟩ := t
  cases failed
  cases lawful with
  | failed text =>
    rw [cause]
    rfl

theorem Storied.first_heard (storied : Storied run) (begun : run.story ≠ [])
    (hears : told.map Notice.toTransition = heard run.story) :
    ∃ secs rest, told = ⟨⟨none, .alive, none⟩, secs⟩ :: rest ∧
      run.story = ⟨some .starting, .alive, none⟩ :: rest.map Notice.toTransition ∧
      Path .alive (rest.map Notice.toTransition) run.state := by
  obtain ⟨news, story, path⟩ := storied.opened begun
  rw [heard, story, List.tail_cons] at hears
  obtain ⟨⟨first, secs⟩, rest, rfl, rfl, rfl⟩ := List.map_eq_cons_iff.mp hears
  exact ⟨secs, rest, rfl, story, path⟩

theorem Storied.filterMap_heard (storied : Storied run) (begun : run.story ≠ [])
    (named : c.run.run = c.options.runId) (hears : told.map Notice.toTransition = heard run.story) :
    told.filterMap (RecordWrite.ofNotice? c.options) = c.writes run.cause told := by
  obtain ⟨secs, rest, rfl, story, _⟩ := storied.first_heard begun hears
  have each : ∀ n ∈ rest, RecordWrite.ofNotice? c.options n
      = RecordWrite.ofState? n.secs run.cause n.target := by
    rintro ⟨t, secs⟩ mem
    have here : t ∈ run.story := story ▸ List.mem_cons_of_mem _ (List.mem_map_of_mem mem)
    have cause := storied.cause_of_error here
    cases storied.lawful t here with
    | failed text =>
      rw [← cause rfl]
      rfl
    | _ => rfl
  simp only [RunContext.writes, List.filterMap_cons, named]
  rw [List.filterMap_congr each]
  rfl

/-- How a record stands to a run that has come to this state at this time, with this cause. -/
structure Mirrors (c : RunContext) (secs : Int64) (state : RunState) (cause : Option String)
    (r : RunRecord) : Prop where
  begun : state ≠ .starting
  uncaused : state ≠ .error → cause = none
  shown : ∃ status, (∀ s, RunStatus.ofState? state = some s → status = s) ∧
    r = { c.firstRecord with
      stopSecs := if state.isTerminal then some secs else none
      status := status
      failure := cause }

theorem Mirrors.next {secs : Int64} {state target : RunState} {cause given final : Option String}
    {r : RunRecord} (mirrors : Mirrors c secs state cause r) (secs' : Int64) (lawful : Transition.Lawful ⟨some state, target, given⟩)
    (same : target = .error → given = final) :
    Mirrors c secs' target (given <|> cause)
      ((RecordWrite.ofState? secs' final target).toList.foldl RecordWrite.amend r) := by
  obtain ⟨begun, uncaused, status, shown, rfl⟩ := mirrors
  cases lawful with
  | started => exact absurd rfl begun
  | suspending | resumed =>
    exact ⟨by simp, fun _ => uncaused (by simp), status, shown, rfl⟩
  | suspended => exact ⟨by simp, fun _ => uncaused (by simp), .suspended, by simp [RunStatus.ofState?], rfl⟩
  | resuming => exact ⟨by simp, fun _ => uncaused (by simp), .running, by simp [RunStatus.ofState?], rfl⟩
  | stopping going =>
    rcases going with rfl | rfl
    · exact ⟨by simp, fun _ => uncaused (by simp), status, by simp [RunStatus.ofState?], rfl⟩
    · exact ⟨by simp, fun _ => uncaused (by simp), status, by simp [RunStatus.ofState?], rfl⟩
  | stopped =>
    obtain rfl := uncaused (by simp)
    exact ⟨by simp, fun _ => rfl, .killed, by simp [RunStatus.ofState?], rfl⟩
  | failed text =>
    obtain rfl := same rfl
    exact ⟨by simp, by simp, .failed, by simp [RunStatus.ofState?], rfl⟩

theorem Mirrors.along {secs : Int64} {state last : RunState} {cause final : Option String}
    {r : RunRecord} {news : List Notice} (mirrors : Mirrors c secs state cause r)
    (path : Path state (news.map Notice.toTransition) last)
    (lawful : Lawful (news.map Notice.toTransition))
    (same : ∀ n ∈ news, n.target = .error → n.cause = final) :
    Mirrors c ((news.map (·.secs)).getLastD secs) last
      (latestCause cause (news.map Notice.toTransition))
      ((news.filterMap fun n => RecordWrite.ofState? n.secs final n.target).foldl
        RecordWrite.amend r) := by
  induction news generalizing secs state cause r with
  | nil =>
    cases path
    exact mirrors
  | cons n rest ih =>
    obtain ⟨t, secs'⟩ := n
    cases path with
    | next target given later =>
      have first := mirrors.next secs' (lawful _ List.mem_cons_self) (same _ List.mem_cons_self)
      have rests := ih first later (fun t mem => lawful t (List.mem_cons_of_mem _ mem))
        fun n mem => same n (List.mem_cons_of_mem _ mem)
      rw [List.map_cons, List.getLastD_cons, List.filterMap_cons]
      cases entry : RecordWrite.ofState? secs' final target <;> rw [entry] at rests <;> exact rests

theorem Storied.foldl_amend (storied : Storied run) (begun : run.story ≠ [])
    (hears : told.map Notice.toTransition = heard run.story) {status : RunStatus}
    (shown : RunStatus.ofState? run.state = some status) :
    (c.writes run.cause told).tail.foldl RecordWrite.amend c.firstRecord
      = c.record run told status := by
  obtain ⟨secs, rest, rfl, story, path⟩ := storied.first_heard begun hears
  have cause : run.cause = latestCause none (rest.map Notice.toTransition) := by
    rw [storied.cause, story]
    rfl
  have first : Mirrors c secs .alive none c.firstRecord :=
    ⟨by simp, fun _ => rfl, .running, by simp [RunStatus.ofState?], rfl⟩
  have mirrors := first.along path (fun t mem => storied.lawful t (story ▸ List.mem_cons_of_mem _ mem))
    fun n mem => storied.cause_of_error (story ▸ List.mem_cons_of_mem _ (List.mem_map_of_mem mem))
  obtain ⟨_, _, found, same, whole⟩ := mirrors
  obtain rfl := same status shown
  rw [← cause] at whole
  rw [RunContext.record, List.map_cons, List.getLast?_cons, ← List.getLastD_eq_getLast?]
  exact whole

end
end FlowRuntime
