import FlowRuntime.Proofs.Run.Reached

/-!
The story of a run. Whatever a run does, at every point it has only added to its story, and
what it has added leads from the state it was in to the state it is in. We verify this for
all operations, and that a run that has been started makes only changes of eight kinds, of
which none leads on from an end; its cause is the last that its story gives.
-/
namespace FlowRuntime
open Operation

inductive Path : RunState → List Transition → RunState → Prop where
  | here (state : RunState) : Path state [] state
  | next {state last : RunState} {rest : List Transition} (target : RunState)
      (cause : Option String) (later : Path target rest last) :
      Path state (⟨some state, target, cause⟩ :: rest) last

theorem Path.trans {state middle last : RunState} {news news' : List Transition}
    (first : Path state news middle) (second : Path middle news' last) :
    Path state (news ++ news') last := by
  induction first with
  | here state => exact second
  | next target cause later ih => exact .next target cause (ih second)

theorem Path.last_eq {state last : RunState} {news : List Transition} (path : Path state news last) :
    last = (news.getLast?.map (·.target)).getD state := by
  induction path with
  | here state => rfl
  | @next state last rest target cause later ih =>
    rw [ih, List.getLast?_cons]
    cases rest.getLast? <;> rfl

def latestCause (cause : Option String) (news : List Transition) : Option String :=
  news.foldl (fun cause t => t.cause <|> cause) cause

/-- The first run has become the second by adding to its story. -/
def Onward (r r' : Run) : Prop :=
  ∃ news, r'.story = r.story ++ news ∧ Path r.state news r'.state ∧
    r'.cause = latestCause r.cause news

namespace Onward
variable {r r' r'' : Run}

theorem trans (first : Onward r r') (second : Onward r' r'') : Onward r r'' := by
  obtain ⟨news, story, path, cause⟩ := first
  obtain ⟨news', story', path', cause'⟩ := second
  refine ⟨news ++ news', by rw [story', story, List.append_assoc], path.trans path', ?_⟩
  rw [cause', cause, latestCause, latestCause, latestCause, List.foldl_append]

theorem of_same (story : r'.story = r.story) (state : r'.state = r.state)
    (cause : r'.cause = r.cause) : Onward r r' :=
  ⟨[], by rw [story, List.append_nil], state ▸ .here _, cause⟩

theorem refl (r : Run) : Onward r r := of_same rfl rfl rfl

theorem transition (r : Run) (target : RunState) (cause : Option String) :
    Onward r (r.transition target cause) :=
  ⟨[⟨some r.state, target, cause⟩], rfl, .next target cause (.here target), rfl⟩

theorem story_prefix (onward : Onward r r') : r.story <+: r'.story := by
  obtain ⟨news, story, _⟩ := onward
  exact ⟨news, story.symm⟩

end Onward

/-! ### Operations -/

namespace Activity
variable {α β : Type}

/-- Wherever the activity comes to from this run, it has only added to the story. -/
def Unfolds : Run → Activity α → Prop
  | before, .done run _ => Onward before run
  | before, .waiting run _ resume => Onward before run ∧ ∀ answer, Unfolds run (resume answer)

theorem Unfolds.since {a : Activity α} {r r' : Run} (unfolds : a.Unfolds r') (onward : Onward r r') :
    a.Unfolds r := by
  cases a with
  | done run x => exact onward.trans unfolds
  | waiting run call resume => exact ⟨onward.trans unfolds.1, unfolds.2⟩

theorem Unfolds.bind {a : Activity α} {next : Run → α → Activity β} {r : Run}
    (first : a.Unfolds r) (later : ∀ run x, (next run x).Unfolds run) : (a.bind next).Unfolds r := by
  induction a generalizing r with
  | done run x => exact (later run x).since first
  | waiting run call resume ih => exact ⟨first.1, fun answer => ih answer (first.2 answer)⟩

theorem Unfolds.here {a : Activity α} {r : Run} (unfolds : a.Unfolds r) : a.Unfolds a.run := by
  cases a with
  | done run x => exact Onward.refl run
  | waiting run call resume => exact ⟨.refl run, unfolds.2⟩

theorem Unfolds.onward {a : Activity α} {r : Run} (unfolds : a.Unfolds r) : Onward r a.run := by
  cases a with
  | done run x => exact unfolds
  | waiting run call resume => exact unfolds.1

theorem Unfolds.leads {a b : Activity α} {log : List Exchange} {r : Run} (unfolds : a.Unfolds r)
    (leads : a.Leads log b) : b.Unfolds r := by
  induction leads generalizing r with
  | here a => exact unfolds
  | next answer rest ih => exact (ih (unfolds.2 answer)).since unfolds.1

end Activity

namespace Operation
variable {α β : Type}

def Unfolds (op : Operation α) : Prop := ∀ run, (op run).Unfolds run

theorem unfolds_pure (x : α) : Unfolds (pure x) := fun run => Onward.refl run

theorem unfolds_bind {op : Operation α} {next : α → Operation β} (first : op.Unfolds)
    (later : ∀ x, (next x).Unfolds) : Unfolds (op >>= next) :=
  fun run => (first run).bind fun run x => later x run

theorem unfolds_read (f : Run → α) : Unfolds (read f) := fun run => Onward.refl run

theorem unfolds_change {f : Run → Run}
    (quiet : ∀ r, (f r).story = r.story ∧ (f r).state = r.state ∧ (f r).cause = r.cause) :
    Unfolds (change f) :=
  fun run => .of_same (quiet run).1 (quiet run).2.1 (quiet run).2.2

theorem unfolds_transition (target : RunState) (cause : Option String) :
    Unfolds (transition target cause) := fun run => .transition run target cause

theorem unfolds_ask (call : Call) : Unfolds (ask call) :=
  fun run => ⟨.refl run, fun _ => .refl run⟩

theorem unfolds_requiring {verb : RunVerb} {allowed : List RunState} {op : Operation Outcome}
    (unfolds : op.Unfolds) : Unfolds (requiring verb allowed op) := by
  intro run
  unfold requiring
  split
  · exact unfolds run
  · exact Onward.refl run

theorem unfolds_fanOut (op : InstanceOp) (targets : List (StageKey × Handle)) :
    Unfolds (fanOut op targets) :=
  unfolds_bind (unfolds_ask _) fun _ => unfolds_change fun _ => ⟨rfl, rfl, rfl⟩

theorem unfolds_startInstances (stage : StageSpec) (total left first : Nat) :
    Unfolds (startInstances stage total left first) := by
  induction left generalizing first with
  | zero => exact unfolds_pure _
  | succ left ih =>
    refine unfolds_bind (unfolds_read _) fun options => unfolds_bind (unfolds_ask _) fun answer => ?_
    cases answer with
    | error e => exact unfolds_pure _
    | ok handle => exact unfolds_bind (unfolds_change fun _ => ⟨rfl, rfl, rfl⟩) fun _ => ih _

theorem unfolds_startStages (stages : List StageSpec) : Unfolds (startStages stages) := by
  induction stages with
  | nil => exact unfolds_pure _
  | cons stage rest ih =>
    refine unfolds_bind (unfolds_startInstances _ _ _ _) fun x => ?_
    cases x with
    | error e => exact unfolds_pure _
    | ok _ => exact ih

theorem unfolds_stopAll : Unfolds stopAll :=
  unfolds_bind (unfolds_read _) fun _ =>
    unfolds_bind (unfolds_change fun _ => ⟨rfl, rfl, rfl⟩) fun _ => unfolds_fanOut _ _

theorem unfolds_start : Unfolds start := by
  refine unfolds_bind ?_ fun bound => ?_
  · exact unfolds_bind (unfolds_read _) fun _ => unfolds_bind (unfolds_ask _) fun _ => unfolds_pure _
  · cases bound with
    | error e => exact unfolds_pure _
    | ok _ =>
      refine unfolds_bind (unfolds_read _) fun stages =>
        unfolds_bind (unfolds_startStages stages) fun filled => ?_
      cases filled with
      | error e => exact unfolds_bind unfolds_stopAll fun _ => unfolds_pure _
      | ok _ =>
        exact unfolds_bind (unfolds_change fun _ => ⟨rfl, rfl, rfl⟩) fun _ =>
          unfolds_bind (unfolds_transition _ _) fun _ => unfolds_pure _

theorem unfolds_turnAll (through target : RunState) (op : InstanceOp) :
    Unfolds (turnAll through target op) :=
  unfolds_bind (unfolds_transition _ _) fun _ => unfolds_bind (unfolds_read _) fun _ =>
    unfolds_bind (unfolds_fanOut _ _) fun _ =>
      unfolds_bind (unfolds_transition _ _) fun _ => unfolds_pure _

theorem unfolds_windDown : Unfolds windDown :=
  unfolds_bind (unfolds_transition _ _) fun _ => unfolds_bind unfolds_stopAll fun _ =>
    unfolds_change fun _ => ⟨rfl, rfl, rfl⟩

theorem unfolds_stop : Unfolds stop := by
  intro run
  unfold stop
  split
  · exact Onward.refl run
  · exact unfolds_requiring (unfolds_bind unfolds_windDown fun _ =>
      unfolds_bind (unfolds_transition _ _) fun _ => unfolds_pure _) run

theorem unfolds_repartitionAround (stage : String) (targets : List (StageKey × Handle))
    (partitions : Nat) : Unfolds (repartitionAround stage targets partitions) := by
  refine unfolds_bind (unfolds_fanOut _ _) fun _ => unfolds_bind ?_ fun assigned => ?_
  · exact unfolds_bind (unfolds_read _) fun _ => unfolds_bind (unfolds_ask _) fun _ => unfolds_pure _
  · cases assigned with
    | error e => exact unfolds_pure _
    | ok _ =>
      exact unfolds_bind (unfolds_fanOut _ _) fun _ => unfolds_bind (unfolds_fanOut _ _) fun _ =>
        unfolds_pure _

theorem unfolds_increase (stage : StageSpec) (live target : Nat) :
    Unfolds (increase stage live target) := by
  refine unfolds_bind (unfolds_read _) fun _ =>
    unfolds_bind (unfolds_repartitionAround _ _ _) fun around => ?_
  cases around with
  | error e => exact unfolds_pure _
  | ok _ => exact unfolds_startInstances _ _ _ _

theorem unfolds_decrease (stage : StageSpec) (live target : Nat) :
    Unfolds (decrease stage live target) :=
  unfolds_bind (unfolds_read _) fun _ => unfolds_bind (unfolds_change fun _ => ⟨rfl, rfl, rfl⟩)
    fun _ => unfolds_bind (unfolds_fanOut _ _) fun _ => unfolds_bind (unfolds_read _) fun _ =>
      unfolds_repartitionAround _ _ _

theorem unfolds_conclude (stage : StageSpec) (target : Nat) (x : Outcome) :
    Unfolds (conclude stage target x) := by
  refine unfolds_bind (unfolds_change fun _ => ⟨rfl, rfl, rfl⟩) fun _ => ?_
  cases x with
  | ok _ => exact unfolds_pure _
  | error cause =>
    exact unfolds_bind (unfolds_change fun _ => ⟨rfl, rfl, rfl⟩) fun _ =>
      unfolds_bind unfolds_windDown fun _ => unfolds_bind (unfolds_transition _ _) fun _ =>
        unfolds_pure _

theorem unfolds_rescale (stage : StageSpec) (live target : Nat) :
    Unfolds (rescale stage live target) := by
  rw [rescale_eq]
  refine unfolds_bind (unfolds_change fun _ => ⟨rfl, rfl, rfl⟩) fun _ =>
    unfolds_bind ?_ (unfolds_conclude stage target)
  split
  · exact unfolds_increase stage live target
  · exact unfolds_decrease stage live target

theorem unfolds_changeInstances (stage : String) (target : Nat) :
    Unfolds (changeInstances stage target) := by
  refine unfolds_requiring fun run => ?_
  dsimp only
  split
  · exact Onward.refl run
  · split
    · exact Onward.refl run
    · split
      · exact Onward.refl run
      · exact unfolds_rescale _ _ _ run

theorem unfolds_request (request : RunRequest) : Unfolds request.operation := by
  cases request with
  | suspend => exact unfolds_bind (unfolds_requiring (unfolds_turnAll _ _ _)) fun _ => unfolds_pure _
  | resume => exact unfolds_bind (unfolds_requiring (unfolds_turnAll _ _ _)) fun _ => unfolds_pure _
  | stop => exact unfolds_bind unfolds_stop fun _ => unfolds_pure _
  | changeInstances stage target =>
    exact unfolds_bind (unfolds_changeInstances stage target) fun _ => unfolds_pure _
  | instanceIds stage => exact unfolds_bind (unfolds_read _) fun _ => unfolds_pure _

end Operation

/-! ### Whole stories -/

/-- The changes of state that there are. Only a run that fails is given a cause. -/
inductive Transition.Lawful : Transition → Prop where
  | started : Lawful ⟨some .starting, .alive, none⟩
  | suspending : Lawful ⟨some .alive, .suspending, none⟩
  | suspended : Lawful ⟨some .suspending, .suspended, none⟩
  | resuming : Lawful ⟨some .suspended, .resuming, none⟩
  | resumed : Lawful ⟨some .resuming, .alive, none⟩
  | stopping {state : RunState} (going : state = .alive ∨ state = .suspended) :
      Lawful ⟨some state, .stopping, none⟩
  | stopped : Lawful ⟨some .stopping, .stopped, none⟩
  | failed (cause : String) : Lawful ⟨some .stopping, .error, some cause⟩

def Lawful (story : List Transition) : Prop := ∀ t ∈ story, t.Lawful

def Going (story : List Transition) : Prop := ∀ t ∈ story.dropLast, t.target.isTerminal = false

theorem Lawful.of_prefix {story story' : List Transition} (lawful : Lawful story')
    (earlier : story <+: story') : Lawful story :=
  fun t mem => lawful t (earlier.subset mem)

theorem Going.of_prefix {story story' : List Transition} (going : Going story')
    (earlier : story <+: story') : Going story := by
  obtain ⟨more, rfl⟩ := earlier
  intro t mem
  cases more with
  | nil => exact going t (by simpa using mem)
  | cons head rest =>
    apply going t
    rw [List.dropLast_append_of_ne_nil (by simp)]
    exact List.mem_append_left _ (List.dropLast_subset _ mem)

theorem Path.going {state last : RunState} {news : List Transition} (path : Path state news last)
    (lawful : Lawful news) : Going news := by
  induction path with
  | here state => simp [Going]
  | @next state last rest target cause later ih =>
    have more : Lawful rest := fun t mem => lawful t (List.mem_cons_of_mem _ mem)
    cases later with
    | here => simp [Going]
    | @next _ _ rest' target' cause' later =>
      intro t mem
      rw [List.dropLast_cons_cons] at mem
      rcases List.mem_cons.mp mem with rfl | rests
      · have onward := more _ List.mem_cons_self
        cases onward with
        | stopping going => rcases going with rfl | rfl <;> rfl
        | started | suspending | suspended | resuming | resumed | stopped | failed => rfl
      · exact ih more t rests

/-- Of a run that has been started: how it came to stand as it does. -/
structure Storied (run : Run) : Prop where
  path : Path .starting run.story run.state
  cause : run.cause = latestCause none run.story
  lawful : Lawful run.story

theorem Storied.going {run : Run} (storied : Storied run) : Going run.story :=
  storied.path.going storied.lawful

section
variable {c : RunContext} {log : List Exchange} {run run' : Run}

theorem Storied.of_onward (onward : Onward (.starting c) run) (lawful : Lawful run.story) :
    Storied run := by
  obtain ⟨news, story, path, cause⟩ := onward
  have whole : run.story = news := story
  exact ⟨whole ▸ path, whole ▸ cause, lawful⟩

theorem Lawful.transition (lawful : Lawful run.story) {target : RunState} {cause : Option String}
    (change : Transition.Lawful ⟨some run.state, target, cause⟩) :
    Lawful (run.transition target cause).story := by
  intro t mem
  rcases List.mem_append.mp mem with before | here
  · exact lawful t before
  · rw [List.mem_singleton.mp here]
    exact change

theorem Lawful.woundDown (lawful : Lawful run.story)
    (going : run.state = .alive ∨ run.state = .suspended) (missed : Nat) :
    Lawful (run.woundDown missed).story := lawful.transition (.stopping going)

theorem Carried.lawful (sound : Sound c run) (carried : Carried run log run')
    (lawful : Lawful run.story) : Lawful run'.story := by
  cases carried with
  | idle => exact lawful
  | suspended alive report =>
    have through : Lawful ((run.transition .suspending none).countOpFailures
        report.failed.length).story := lawful.transition (alive ▸ .suspending)
    exact through.transition .suspended
  | resumed suspended report =>
    have through : Lawful ((run.transition .resuming none).countOpFailures
        report.failed.length).story := lawful.transition (suspended ▸ .resuming)
    exact through.transition .resumed
  | stopped going report =>
    have onward : run.state = .alive ∨ run.state = .suspended := by
      have settled := sound.settled
      simp only [List.mem_cons, List.not_mem_nil, or_false] at going settled
      rcases going with here | here | here <;> simp [here] at settled ⊢
    exact (lawful.woundDown onward _).transition .stopped
  | rescaled due course =>
    cases course with
    | complete work => exact lawful
    | @failed log registry cause work report =>
      have reshaped : Lawful ((run.reshaped registry (missed log)).countRescaleFailure).story := lawful
      exact (reshaped.woundDown (.inl due.alive) _).transition (.failed cause.chain)

theorem Reached.onward (reached : Reached c log run) : Onward (.starting c) run := by
  induction reached with
  | started returned =>
    have unfolds : (start (.starting c)).Unfolds (.starting c) := unfolds_start _
    exact unfolds.leads returned
  | @answered log log' run run' request answer before returned ih =>
    have unfolds : (request.operation run).Unfolds run := unfolds_request request run
    exact ih.trans (unfolds.leads returned)

theorem story_start (returned : Returns start (.starting c) log run (.ok ())) :
    run.story = [⟨some .starting, .alive, none⟩] := by
  generalize same : (Except.ok () : Outcome) = x at returned
  cases returns_start returned with
  | unbound e => cases same
  | withdrawn started report => cases same
  | complete started => rfl

theorem Reached.lawful (accepted : c.flow.Accepted) (reached : Reached c log run) :
    Lawful run.story := by
  induction reached with
  | started returned =>
    rw [story_start returned]
    simp [Lawful, Transition.Lawful.started]
  | answered before returned ih =>
    exact (returns_request returned).lawful (sound_of_accepted accepted before) ih

theorem Reached.storied (accepted : c.flow.Accepted) (reached : Reached c log run) : Storied run :=
  .of_onward reached.onward (reached.lawful accepted)

theorem Reached.storied_of_leads {request : RunRequest} {b : Activity RunAnswer}
    {log' : List Exchange} (accepted : c.flow.Accepted) (reached : Reached c log run)
    (leads : (request.operation run).Leads log' b) : Storied b.run := by
  have unfolds : b.Unfolds run := (unfolds_request request run).leads leads
  obtain ⟨rest, last, x, ended, _⟩ := b.exists_refused_end
  have whole := (reached.answered (leads.trans ended)).lawful accepted
  have later : Onward b.run last := unfolds.here.leads ended
  exact .of_onward (reached.onward.trans unfolds.onward) (whole.of_prefix later.story_prefix)

end
end FlowRuntime
