import FlowRuntime.Proofs.Run.Requests
import FlowRuntime.Proofs.Run.Story
import FlowRuntime.Proofs.Run.Waiting

/-!
The graph of a run's states. We verify that at every moment the changes of state that a run
has made form a chain along nine edges, begun by its start, of which only the last may lead
to an end; that a run fails by a rescale and by nothing else, and has a cause only then; and
that nobody is called for a run that has ended, whatever is asked of it.
-/
namespace FlowRuntime
open Operation

def RunState.edges : List (RunState × RunState) :=
  [(.starting, .alive), (.alive, .suspending), (.suspending, .suspended), (.suspended, .resuming),
    (.resuming, .alive), (.alive, .stopping), (.suspended, .stopping), (.stopping, .stopped),
    (.stopping, .error)]

/-- The changes of state that a run has made, as they have to be. -/
structure Charted (run : Run) : Prop where
  chain : Path .starting run.story run.state
  first : ∀ t ∈ run.story.head?, t = ⟨some .starting, .alive, none⟩
  edges : ∀ t ∈ run.story, ∃ edge ∈ RunState.edges, t.source = some edge.1 ∧ t.target = edge.2
  caused : ∀ t ∈ run.story, t.cause.isSome ↔ t.source = some .stopping ∧ t.target = .error
  last : ∀ before t after, run.story = before ++ t :: after → t.target.isTerminal → after = []

/-- A run at any moment: while it starts, between two requests, and wherever a request has come to. -/
inductive Seen (c : RunContext) : Run → Prop where
  | starting {log : List Exchange} {b : Activity Outcome}
      (leads : (start (.starting c)).Leads log b) : Seen c b.run
  | resting {log : List Exchange} {run : Run} (reached : Reached c log run) : Seen c run
  | busy {log log' : List Exchange} {run : Run} {request : RunRequest} {b : Activity RunAnswer}
      (reached : Reached c log run) (leads : (request.operation run).Leads log' b) : Seen c b.run

/-- A request that makes a run fail by this change: a rescale that has failed for this reason. -/
def FailsBy (request : RunRequest) (answer : RunAnswer) (t : Transition) : Prop :=
  ∃ stage target reason, request = .changeInstances stage target ∧
    answer = .outcome (.error (.rescaleFailed stage target reason)) ∧
    t = ⟨some .stopping, .error, some reason.chain⟩

/-! ### The chart -/

theorem Transition.Lawful.edge {t : Transition} (lawful : t.Lawful) :
    ∃ edge ∈ RunState.edges, t.source = some edge.1 ∧ t.target = edge.2 := by
  cases lawful with
  | stopping going => rcases going with rfl | rfl <;> simp [RunState.edges]
  | started | suspending | suspended | resuming | resumed | stopped | failed =>
    simp [RunState.edges]

theorem Transition.Lawful.caused {t : Transition} (lawful : t.Lawful) :
    t.cause.isSome ↔ t.source = some .stopping ∧ t.target = .error := by
  cases lawful <;> simp

theorem Going.last {story before after : List Transition} {t : Transition} (going : Going story)
    (split : story = before ++ t :: after) (ended : t.target.isTerminal = true) : after = [] := by
  cases after with
  | nil => rfl
  | cons next rest =>
    have earlier : t ∈ story.dropLast := by simp [split, List.dropLast_append_of_ne_nil]
    simp [going t earlier] at ended

theorem Storied.charted {run : Run} (storied : Storied run) : Charted run where
  chain := storied.path
  first := by
    intro t here
    obtain ⟨path, _, lawful⟩ := storied
    generalize run.story = story at path lawful here
    generalize run.state = state at path
    cases path with
    | here => cases here
    | next target cause later =>
      cases here
      cases lawful _ List.mem_cons_self with
      | started => rfl
      | stopping going => rcases going with impossible | impossible <;> cases impossible
  edges := by
    intro t mem
    exact (storied.lawful t mem).edge
  caused := by
    intro t mem
    exact (storied.lawful t mem).caused
  last := by
    intro before t after split ended
    exact storied.going.last split ended

section
variable {c : RunContext} {log log' : List Exchange} {run run' : Run} {request : RunRequest}
  {answer : RunAnswer}

theorem lawful_start {x : Outcome} (returned : Returns start (.starting c) log run x) :
    Lawful run.story := by
  cases returns_start returned with
  | unbound e => simp [Lawful, Run.starting]
  | withdrawn started report =>
    simp [Lawful, Run.countOpFailures, Run.releaseAll, Run.starting]
  | @complete log begun started =>
    have untold : Lawful ((Run.starting c).holdAll begun).publish.story := by
      simp [Lawful, Run.publish, Run.holdAll, Run.starting]
    exact untold.transition .started

theorem storied_starting {b : Activity Outcome} (leads : (start (.starting c)).Leads log b) :
    Storied b.run := by
  have begun : (start (.starting c)).Unfolds (.starting c) := unfolds_start _
  have unfolds := begun.leads leads
  obtain ⟨rest, last, x, ended, _⟩ := b.exists_refused_end
  have whole := lawful_start (leads.trans ended)
  have later : Onward b.run last := unfolds.here.leads ended
  exact .of_onward unfolds.onward (whole.of_prefix later.story_prefix)

theorem Seen.charted (accepted : c.flow.Accepted) (seen : Seen c run) : Charted run := by
  cases seen with
  | starting leads => exact (storied_starting leads).charted
  | resting reached => exact (reached.storied accepted).charted
  | busy reached leads => exact (reached.storied_of_leads accepted leads).charted

/-! ### Failures -/

theorem FailsBy.not_idle {x : Outcome} (waived : Waived run request x) (t : Transition) :
    ¬ FailsBy request (.outcome x) t := by
  rintro ⟨stage, target, reason, rfl, failed, rfl⟩
  cases failed
  cases waived

theorem FailsBy.never {news : List Transition} (unfailed : ∀ t ∈ news, t.target ≠ .error)
    (apart : ∀ stage target, request ≠ .changeInstances stage target) (t : Transition) :
    t ∈ news ∧ t.target = .error ↔ FailsBy request answer t := by
  constructor
  · rintro ⟨mem, failed⟩
    exact absurd failed (unfailed t mem)
  · rintro ⟨stage, target, _, rfl, _⟩
    exact absurd rfl (apart stage target)

theorem failsBy_iff (settled : Settled run)
    (returned : Returns request.operation run log run' answer) :
    ∃ news, run'.story = run.story ++ news ∧
      ∀ t, t ∈ news ∧ t.target = .error ↔ FailsBy request answer t := by
  cases dealt_request settled returned with
  | @waived x waived _ same =>
    refine ⟨[], by simp [same], ?_⟩
    intro t
    simp [FailsBy.not_idle waived t]
  | listed asked _ same =>
    refine ⟨[], by simp [same], ?_⟩
    intro t
    simp [FailsBy]
  | carried carried =>
    cases carried with
    | suspended alive report =>
      refine ⟨[⟨some run.state, .suspending, none⟩, ⟨some .suspending, .suspended, none⟩], ?_, ?_⟩
      · simp [Run.transition, Run.countOpFailures]
      · exact FailsBy.never (by simp) (by simp)
    | resumed suspended report =>
      refine ⟨[⟨some run.state, .resuming, none⟩, ⟨some .resuming, .alive, none⟩], ?_, ?_⟩
      · simp [Run.transition, Run.countOpFailures]
      · exact FailsBy.never (by simp) (by simp)
    | stopped going report =>
      refine ⟨[⟨some run.state, .stopping, none⟩, ⟨some .stopping, .stopped, none⟩], ?_, ?_⟩
      · simp [Run.transition, Run.woundDown, Run.countOpFailures, Run.releaseAll, Run.publish]
      · exact FailsBy.never (by simp) (by simp)
    | @rescaled stage target spec due log run' x course =>
      have named := FlowSpec.name_of_stage? due.found
      cases course with
      | complete work =>
        refine ⟨[], by simp [Run.reshaped, Run.publish, Run.countOpFailures, Run.countRescale], ?_⟩
        intro t
        simp [FailsBy]
      | @failed log registry cause work report =>
        refine ⟨[⟨some run.state, .stopping, none⟩, ⟨some .stopping, .error, some cause.chain⟩], ?_, ?_⟩
        · simp [Run.transition, Run.woundDown, Run.countOpFailures, Run.releaseAll, Run.publish,
            Run.reshaped, Run.countRescale, Run.countRescaleFailure]
        · intro t
          constructor
          · rintro ⟨mem, ended⟩
            rcases List.mem_pair.mp mem with rfl | rfl
            · cases ended
            · exact ⟨stage, target, cause, rfl, by rw [named], rfl⟩
          · rintro ⟨_, _, reason, _, same, rfl⟩
            cases same
            exact ⟨by simp, rfl⟩

/-! ### Calls -/

/-- That a run has not ended does not depend on what it holds and counts. -/
def Unended (run : Run) : Prop := run.state.isTerminal = false

theorem steady_unended : Steady Unended where
  hold _ _ _ here := here
  release _ _ here := here
  releaseAll _ here := here
  countRescale _ here := here
  countRescaleFailure _ here := here
  countOpFailures _ _ here := here

/-- Begun on a run that has not ended, the operation makes calls only for runs that have not. -/
def Guarded {α : Type} (op : Operation α) : Prop :=
  ∀ run, Unended run → (op run).Holds Unended fun _ _ => True

theorem guarded_bind {α β : Type} {op : Operation α} {next : α → Operation β}
    (first : Keeps Unended op) (later : ∀ x, Guarded (next x)) : Guarded (op >>= next) :=
  until_bind first later

theorem guarded_final {α : Type} (target : RunState) (cause : Option String) (x : α) :
    Guarded (transition target cause >>= fun _ => pure x) := by
  intro run here
  trivial

theorem keeps_transition {target : RunState} {cause : Option String}
    (onward : target.isTerminal = false) : Keeps Unended (transition target cause) := by
  intro run here
  exact onward

theorem keeps_windDown : Keeps Unended windDown := by
  refine keeps_bind (keeps_transition rfl) ?_
  intro _
  refine keeps_bind (keeps_stopAll steady_unended) ?_
  intro _
  apply keeps_change
  intro run here
  exact here

theorem guarded_conclude (spec : StageSpec) (target : Nat) (outcome : Outcome) :
    Guarded (conclude spec target outcome) := by
  refine guarded_bind (keeps_change ?_) ?_
  · intro run here
    exact here
  intro _
  cases outcome with
  | ok _ =>
    intro run here
    trivial
  | error cause =>
    refine guarded_bind (keeps_change ?_) ?_
    · intro run here
      exact here
    intro _
    refine guarded_bind keeps_windDown ?_
    intro _
    exact guarded_final _ _ _

theorem guarded_changeInstances (stage : String) (target : Nat) :
    Guarded (changeInstances stage target) := by
  apply until_requiring
  intro run here
  dsimp only
  split
  · trivial
  · split
    · trivial
    · split
      · trivial
      · rw [rescale_eq]
        refine guarded_bind (keeps_change ?_) ?_ run here
        · intro run here
          exact here
        intro _
        refine guarded_bind ?_ ?_
        · split
          · exact keeps_increase steady_unended _ _ _
          · exact keeps_decrease steady_unended _ _ _
        · intro outcome
          exact guarded_conclude _ _ outcome

theorem guarded_request (request : RunRequest) : Guarded request.operation := by
  cases request with
  | suspend | resume =>
    refine until_map _ (until_requiring (until_turnAll steady_unended ?_ _ _))
    intro run here
    rfl
  | stop => exact until_map _ (until_stop steady_unended fun _ _ => rfl)
  | changeInstances stage target => exact until_map _ (guarded_changeInstances stage target)
  | instanceIds stage =>
    intro run here
    trivial

theorem unended_of_awaits (settled : Settled run) {call : Call}
    (awaits : Awaits request.operation run log run' call) : Unended run' := by
  by_cases going : Unended run
  · obtain ⟨resume, leads⟩ := awaits
    exact ((guarded_request request run going).leads leads).1
  · have ended : run.state.isTerminal = true := by simpa [Unended] using going
    obtain ⟨rest, last, answer, returned, _⟩ := awaits.exists_returns
    have series : Serves run [⟨request, _, answer⟩] last := .next returned (.none last)
    have idle := (series.of_ended settled ended).2 _ List.mem_cons_self
    simp at idle

theorem Storied.unended {run : Run} (storied : Storied run) (going : Unended run) :
    ∀ t ∈ run.story, t.target.isTerminal = false := by
  intro t mem
  obtain ⟨before, after, split⟩ := List.append_of_mem mem
  by_contra ended
  have last := storied.going.last split (by simpa using ended)
  have here := storied.path.last_eq
  rw [split, last] at here
  simp only [List.getLast?_append, List.getLast?_singleton, Option.some_or, Option.map_some,
    Option.getD_some] at here
  rw [Unended, here] at going
  exact ended going

/-- What a run has become, at every moment: its changes of state are as they have to be, it fails by
a rescale, and once it has ended nothing more is called for, whatever is asked of it. -/
theorem transitions_charted {program : Program} {options : RunOptions}
    (made : RunContext.ofProgram program options = .ok c) :
    (∀ run, Seen c run → Charted run) ∧
    (∀ log run (request : RunRequest) log' run' answer, Reached c log run →
      Returns request.operation run log' run' answer →
      ∃ news, run'.story = run.story ++ news ∧
        ∀ t, t ∈ news ∧ t.target = .error ↔ FailsBy request answer t) ∧
    (∀ log run (request : RunRequest) log' run' call, Reached c log run →
      Awaits request.operation run log' run' call →
      ∀ t ∈ run'.story, t.target.isTerminal = false) ∧
    ∀ log run series run', Reached c log run → run.state.isTerminal →
      Serves run series run' → run' = run ∧ ∀ service ∈ series, service.log = [] := by
  have accepted := RunContext.accepted_of_ofProgram made
  have settled {log : List Exchange} {run : Run} (reached : Reached c log run) : Settled run :=
    (sound_of_accepted accepted reached).settled
  refine ⟨?_, ?_, ?_, ?_⟩
  · intro run seen
    exact seen.charted accepted
  · intro log run request log' run' answer reached returned
    exact failsBy_iff (settled reached) returned
  · intro log run request log' run' call reached awaits
    have unended := unended_of_awaits (settled reached) awaits
    obtain ⟨resume, leads⟩ := awaits
    exact (reached.storied_of_leads accepted leads).unended unended
  · intro log run series run' reached ended serves
    exact serves.of_ended (settled reached) ended

theorem lone_charted :
    Charted loneFailed ∧ loneFailed.story =
      [⟨some .starting, .alive, none⟩, ⟨some .alive, .stopping, none⟩,
        ⟨some .stopping, .error, some loneDenial.chain⟩] ∧
    ∀ series run', Serves loneFailed series run' →
      run' = loneFailed ∧ ∀ service ∈ series, service.log = [] := by
  obtain ⟨charted, _, _, ended⟩ := transitions_charted lone_made
  refine ⟨charted loneFailed (.resting lone_reached_failed), rfl, ?_⟩
  intro series run' serves
  exact ended _ loneFailed series run' lone_reached_failed rfl serves

end
end FlowRuntime
