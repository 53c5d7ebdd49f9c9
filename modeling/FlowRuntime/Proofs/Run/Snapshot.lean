import FlowRuntime.Proofs.Run.Requests
import FlowRuntime.Proofs.Run.Waiting

/-!
The counts that a run shows to those who do not wait for it. They are replaced when they are
published, so what is shown while a request is carried out may be what was held before. We
verify for every course of a request that the counts of before are shown as long as it lasts
and those of the end when it has been answered, but for a rescale whose work has failed: then
what the work has left is shown as well, for as long as it takes to bring the run down.
-/
namespace FlowRuntime

/-! ## Runs that are seen on the way -/

namespace Activity
variable {α β : Type} {a b : Activity α} {log : List Exchange} {seen : List Run}

/-- With the answers of these exchanges, the one activity has come to be the other; these are the
runs as they could be seen before each of the answers. -/
inductive Passes : Activity α → List Exchange → List Run → Activity α → Prop where
  | here (a : Activity α) : Passes a [] [] a
  | next {run : Run} {call : Call} {resume : call.Answer → Activity α} (answer : call.Answer)
      {log : List Exchange} {seen : List Run} {b : Activity α}
      (rest : Passes (resume answer) log seen b) :
      Passes (.waiting run call resume) (⟨call, answer⟩ :: log) (run :: seen) b

theorem Passes.leads (passes : a.Passes log seen b) : a.Leads log b := by
  induction passes with
  | here a => exact .here a
  | next answer rest ih => exact .next answer ih

theorem Leads.exists_passes (leads : a.Leads log b) : ∃ seen, a.Passes log seen b := by
  induction leads with
  | here a => exact ⟨[], .here a⟩
  | next answer rest ih =>
    obtain ⟨seen, passes⟩ := ih
    exact ⟨_, .next answer passes⟩

theorem passes_done_iff {run : Run} {x : α} :
    (done run x).Passes log seen b ↔ log = [] ∧ seen = [] ∧ b = done run x := by
  constructor
  · intro passes
    cases passes
    exact ⟨rfl, rfl, rfl⟩
  · rintro ⟨rfl, rfl, rfl⟩
    exact .here _

theorem Passes.of_bind {next : Run → α → Activity β} {b : Activity β}
    (passes : (a.bind next).Passes log seen b) :
    (∃ run call before, a.Passes log seen (waiting run call before) ∧
      b = (waiting run call before).bind next) ∨
    ∃ log₁ seen₁ run₁ x log₂ seen₂, a.Passes log₁ seen₁ (done run₁ x) ∧
      (next run₁ x).Passes log₂ seen₂ b ∧ log = log₁ ++ log₂ ∧ seen = seen₁ ++ seen₂ := by
  induction a generalizing log seen with
  | done run₁ x => exact .inr ⟨[], [], run₁, x, log, seen, .here _, passes, rfl, rfl⟩
  | waiting run call resume ih =>
    cases passes with
    | here => exact .inl ⟨run, call, resume, .here _, rfl⟩
    | next answer rest =>
      rcases ih answer rest with ⟨run', call', before, first, same⟩ |
        ⟨log₁, seen₁, run₁, x, log₂, seen₂, first, second, rfl, rfl⟩
      · exact .inl ⟨run', call', before, .next answer first, same⟩
      · exact .inr ⟨_ :: log₁, run :: seen₁, run₁, x, log₂, seen₂, .next answer first, second,
          rfl, rfl⟩

theorem Passes.of_map {f : α → β} {b : Activity β}
    (passes : (a.bind fun run x => done run (f x)).Passes log seen b) :
    ∃ before, a.Passes log seen before ∧ b = before.bind fun run x => done run (f x) := by
  rcases passes.of_bind with ⟨run, call, before, first, same⟩ |
    ⟨log₁, seen₁, run₁, x, log₂, seen₂, first, second, rfl, rfl⟩
  · exact ⟨_, first, same⟩
  · obtain ⟨rfl, rfl, rfl⟩ := passes_done_iff.mp second
    exact ⟨_, by simpa using first, rfl⟩

end Activity

def shownBy (seen : List Run) : List (SortedMap String Nat) := seen.map (·.counts)

theorem Activity.Holds.shown {α : Type} {counts : SortedMap String Nat} {after : Run → α → Prop}
    {a b : Activity α} {log : List Exchange} {seen : List Run}
    (holds : a.Holds (·.counts = counts) after) (passes : a.Passes log seen b) :
    shownBy seen = List.replicate log.length counts := by
  induction passes with
  | here a => rfl
  | next answer rest ih =>
    obtain ⟨here, later⟩ := holds
    have onward := ih (later answer)
    rw [shownBy] at onward ⊢
    rw [List.map_cons, onward, here, List.length_cons, List.replicate_succ]

namespace Operation

/-! ## Requests that publish only at their end -/

section
variable {counts : SortedMap String Nat}

theorem steady_counts : Steady (·.counts = counts) where
  hold _ _ _ here := here
  release _ _ here := here
  releaseAll _ here := here
  countRescale _ here := here
  countRescaleFailure _ here := here
  countOpFailures _ _ here := here

end

def Unscaled (run : Run) (request : RunRequest) : Prop :=
  ∀ stage target spec, request = .changeInstances stage target → ¬ Due run stage target spec

theorem Unscaled.holds {run : Run} {request : RunRequest} (unscaled : Unscaled run request) :
    (request.operation run).Holds (·.counts = run.counts) fun _ _ => True := by
  cases request with
  | suspend | resume =>
    exact until_map _ (until_requiring (until_turnAll steady_counts (fun _ here => here) _ _)) run rfl
  | stop => exact until_map _ (until_stop steady_counts fun _ here => here) run rfl
  | changeInstances stage target =>
    obtain ⟨x, waived⟩ := waived_of_not_due fun spec => unscaled stage target spec rfl
    rw [waived.done]
    trivial
  | instanceIds stage => trivial

def IsFailedRescale (answer : RunAnswer) : Prop :=
  ∃ stage target cause, answer = .outcome (.error (.rescaleFailed stage target cause))

theorem Unscaled.not_failed {run run' : Run} {request : RunRequest} {log : List Exchange}
    {answer : RunAnswer} (unscaled : Unscaled run request)
    (dealt : Dealt run request log run' answer) : ¬ IsFailedRescale answer := by
  rintro ⟨stage, target, cause, rfl⟩
  cases dealt with
  | waived waived => cases waived
  | carried carried =>
    cases carried with
    | rescaled due course => exact unscaled _ _ _ rfl due

/-! ## Rescales -/

/-- What a run shows while it carries out a request and when it has: what was held before, and then
what is held afterwards. A rescale whose work has failed shows what that has left in between. -/
inductive Shown (run : Run) (request : RunRequest) :
    List Exchange → Activity RunAnswer → List (SortedMap String Nat) → Prop where
  | underWay {log : List Exchange} {run' : Run} {call : Call}
      {resume : call.Answer → Activity RunAnswer} :
      Shown run request log (.waiting run' call resume)
        (List.replicate (log.length + 1) (Registry.counts run.registry))
  | answered {log : List Exchange} {run' : Run} {answer : RunAnswer}
      (done : ¬ IsFailedRescale answer) :
      Shown run request log (.done run' answer)
        (List.replicate log.length (Registry.counts run.registry) ++
          [Registry.counts run'.registry])
  | failing {stage : String} {target : Nat} {spec : StageSpec} {log : List Exchange}
      {registry : Registry Handle} {cause : Failure} {run' : Run}
      {resume : Report StageKey → Activity RunAnswer}
      (asked : request = .changeInstances stage target) (due : Due run stage target spec)
      (work : Reshaped run spec (Registry.liveCount run.registry stage) target log registry
        (.error cause)) :
      Shown run request log (.waiting run' (.fanOut .stop registry.all) resume)
        (List.replicate log.length (Registry.counts run.registry) ++ [Registry.counts registry])
  | failed {stage : String} {target : Nat} {spec : StageSpec} {log : List Exchange}
      {registry : Registry Handle} {cause : Failure} {run' : Run}
      (asked : request = .changeInstances stage target) (due : Due run stage target spec)
      (work : Reshaped run spec (Registry.liveCount run.registry stage) target log registry
        (.error cause))
      (report : Report StageKey) (emptied : run'.registry = .empty) :
      Shown run request (log ++ [⟨.fanOut .stop registry.all, report⟩])
        (.done run' (.outcome (.error (.rescaleFailed spec.name target cause))))
        (List.replicate log.length (Registry.counts run.registry) ++
          [Registry.counts registry, Registry.counts run'.registry])

section
variable {c : RunContext} {log log' : List Exchange} {run : Run} {request : RunRequest}
  {seen : List Run} {b : Activity RunAnswer}

theorem keeps_work (counts : SortedMap String Nat) (spec : StageSpec) (live target : Nat) :
    Keeps (·.counts = counts)
      (if live < target then increase spec live target else decrease spec live target) := by
  split
  · exact keeps_increase steady_counts _ _ _
  · exact keeps_decrease steady_counts _ _ _

theorem rescale_run (spec : StageSpec) (live target : Nat) (run : Run) :
    rescale spec live target run =
      ((if live < target then increase spec live target else decrease spec live target)
        run.countRescale).bind fun run outcome => conclude spec target outcome run := by
  rw [rescale_eq]
  rfl

theorem shownBy_append (seen seen' : List Run) : shownBy (seen ++ seen') = shownBy seen ++ shownBy seen' :=
  List.map_append

theorem shown_of_due {stage : String} {target : Nat} {spec : StageSpec}
    (published : run.counts = Registry.counts run.registry) (due : Due run stage target spec)
    (passes : ((RunRequest.changeInstances stage target).operation run).Passes log seen b) :
    Shown run (.changeInstances stage target) log b (shownBy (seen ++ [b.run])) := by
  obtain ⟨rescaled, within, rfl⟩ := Activity.Passes.of_map passes
  rw [changeInstances_due due, rescale_run] at within
  have quiet := keeps_work (Registry.counts run.registry) spec
    (Registry.liveCount run.registry stage) target run.countRescale published
  rcases Activity.Passes.of_bind within with ⟨run', call, before, first, rfl⟩ |
    ⟨log₁, seen₁, run₁, y, log₂, seen₂, first, second, rfl, rfl⟩
  · have same : run'.counts = Registry.counts run.registry := (quiet.leads first.leads).1
    have shown : shownBy (seen ++ [run']) =
        List.replicate (log.length + 1) (Registry.counts run.registry) := by
      rw [shownBy_append, quiet.shown first, List.replicate_succ', ← same]
      rfl
    exact shown ▸ .underWay
  · obtain ⟨registry, work, rfl⟩ := returns_work first.leads
    cases y with
    | ok _ =>
      obtain ⟨rfl, rfl, rfl⟩ := Activity.passes_done_iff.mp second
      rw [List.append_nil, List.append_nil, shownBy_append, quiet.shown first]
      exact .answered (by simp [IsFailedRescale])
    | error cause =>
      -- The counts are published before the instances that are left are told to stop.
      have stopping : (Activity.waiting _ (.fanOut .stop registry.all) _).Passes log₂ seen₂ rescaled :=
        second
      cases stopping with
      | here =>
        rw [List.append_nil, List.append_nil, shownBy_append, quiet.shown first]
        exact .failing rfl due work
      | next report rest =>
        obtain ⟨rfl, rfl, rfl⟩ := Activity.passes_done_iff.mp rest
        rw [List.append_assoc, shownBy_append, quiet.shown first]
        exact .failed rfl due work report rfl

theorem shown_of_unscaled (accepted : c.flow.Accepted) (reached : Reached c log run)
    (unscaled : Unscaled run request) (passes : (request.operation run).Passes log' seen b) :
    Shown run request log' b (shownBy (seen ++ [b.run])) := by
  have sound := sound_of_accepted accepted reached
  have quiet := unscaled.holds
  rw [sound.published] at quiet
  rw [shownBy_append, quiet.shown passes]
  cases b with
  | done run' answer =>
    have later := sound_of_accepted accepted (reached.answered passes.leads)
    have now : shownBy [run'] = [Registry.counts run'.registry] := by simp [shownBy, later.published]
    exact now ▸ .answered (unscaled.not_failed (dealt_request sound.settled passes.leads))
  | waiting run' call resume =>
    have same : run'.counts = Registry.counts run.registry := (quiet.leads passes.leads).1
    have now : shownBy [run'] = [Registry.counts run.registry] := by simp [shownBy, same]
    change Shown run request log' _ (_ ++ shownBy [run'])
    rw [now, ← List.replicate_succ']
    exact .underWay

theorem shown_of_passes (accepted : c.flow.Accepted) (reached : Reached c log run)
    (passes : (request.operation run).Passes log' seen b) :
    Shown run request log' b (shownBy (seen ++ [b.run])) := by
  by_cases unscaled : Unscaled run request
  · exact shown_of_unscaled accepted reached unscaled passes
  · simp only [Unscaled, not_forall, not_not] at unscaled
    obtain ⟨stage, target, spec, rfl, due⟩ := unscaled
    exact shown_of_due (sound_of_accepted accepted reached).published due passes

/-- Between two requests a run shows what it holds. From its first moment to its last, a request shows
what was held before it and then what is held when it has been answered, unless it is a rescale that fails. -/
theorem counts_shown {program : Program} {options : RunOptions}
    (made : RunContext.ofProgram program options = .ok c) (reached : Reached c log run) :
    run.counts = Registry.counts run.registry ∧
      ∀ request log' seen b, (request.operation run).Passes log' seen b →
        Shown run request log' b (shownBy (seen ++ [b.run])) := by
  have accepted := RunContext.accepted_of_ofProgram made
  refine ⟨(sound_of_accepted accepted reached).published, ?_⟩
  intro request log' seen b passes
  exact shown_of_passes accepted reached passes

/-! The run of the one instance is to have three, but only the second can be started. -/

def loneAttempt : List Exchange :=
  [⟨.fanOut .suspend loneTargets, ⟨[⟨"stage", 0⟩], []⟩⟩,
    ⟨.repartition (loneContext.consumerGroup "stage" 3), .ok ()⟩,
    ⟨.fanOut (.command 3) loneTargets, ⟨[⟨"stage", 0⟩], []⟩⟩,
    ⟨.fanOut .resume loneTargets, ⟨[⟨"stage", 0⟩], []⟩⟩,
    ⟨.start (loneContext.instanceOptions loneStage 1 3), .ok (1 : Handle)⟩,
    ⟨.start (loneContext.instanceOptions loneStage 2 3), .error .instanceGone⟩,
    ⟨.fanOut .stop [(⟨"stage", 0⟩, 0), (⟨"stage", 1⟩, 1)], ⟨[⟨"stage", 0⟩, ⟨"stage", 1⟩], []⟩⟩]

def loneRefusal : Failure := .within (.startingInstance ⟨"stage", 2⟩) .instanceGone

def loneUndone : Run :=
  ((loneRun.reshaped (loneRun.registry.insertAll [(⟨"stage", 1⟩, 1)]) 0).countRescaleFailure.woundDown
    0).transition .error (some loneRefusal.chain)

def loneCount (instances : Nat) : SortedMap String Nat := .ofList [("stage", instances)]

theorem lone_attempted : ∃ seen,
    ((RunRequest.changeInstances "stage" 3).operation loneRun).Passes loneAttempt seen
      (.done loneUndone (.outcome (.error (.rescaleFailed "stage" 3 loneRefusal)))) ∧
    shownBy seen = List.replicate 6 (loneCount 1) ++ [loneCount 2] :=
  ⟨_, .next _ (.next _ (.next _ (.next _ (.next _ (.next _ (.next _ (.here _))))))), by decide⟩

theorem lone_counts_shown :
    RunContext.ofProgram loneProgram loneOptions = .ok loneContext ∧
      Reached loneContext loneLog loneRun ∧
      loneRun.counts = Registry.counts loneRun.registry ∧
      ∃ seen b, Shown loneRun (.changeInstances "stage" 3) loneAttempt b (shownBy (seen ++ [b.run])) := by
  obtain ⟨published, shown⟩ := counts_shown lone_made lone_reached
  obtain ⟨seen, passes, _⟩ := lone_attempted
  exact ⟨lone_made, lone_reached, published, seen, _, shown _ _ _ _ passes⟩

/-- While the instances of the failed rescale are told to stop, the two that it has left are shown, which
is neither what was held before nor what is held in the end. -/
theorem lone_shows_half :
    Reached loneContext loneLog loneRun ∧ ∃ seen answer,
      ((RunRequest.changeInstances "stage" 3).operation loneRun).Passes loneAttempt seen
        (.done loneUndone answer) ∧
      loneCount 2 ∈ shownBy seen ∧ loneCount 2 ≠ Registry.counts loneRun.registry ∧
      loneCount 2 ≠ Registry.counts loneUndone.registry := by
  obtain ⟨seen, passes, shown⟩ := lone_attempted
  exact ⟨lone_reached, seen, _, passes, by simp [shown], by decide, by decide⟩

end
end Operation
end FlowRuntime
