import FlowRuntime.Proofs.Run.Reached

/-!
Which requests a run carries out. The others are waived: they are turned away for one
reason, or ask for what is so already. We verify of every course of a request to a run that
has settled that it is one or the other. Either it has ended at once, without a call and with
the run as it was, or it is a course of what was asked for; so a run that has not failed can
always be stopped.
-/
namespace FlowRuntime
open Operation

/-- The requests for which a run does nothing, with the answer that each is given. A request for
another number of instances is turned away for the first of its reasons. -/
inductive Waived (run : Run) : RunRequest → Outcome → Prop where
  | suspend (unready : run.state ≠ .alive) :
      Waived run .suspend (.error (.wrongState .suspend run.state))
  | resume (unready : run.state ≠ .suspended) :
      Waived run .resume (.error (.wrongState .resume run.state))
  | stop (failed : run.state = .error) : Waived run .stop (.error (.wrongState .stop .error))
  | stopped (finished : run.state = .stopped) : Waived run .stop (.ok ())
  | rescale {stage : String} {target : Nat} (unready : run.state ≠ .alive) :
      Waived run (.changeInstances stage target) (.error (.wrongState .rescale run.state))
  | noInstances {stage : String} (alive : run.state = .alive) :
      Waived run (.changeInstances stage 0) (.error (.noInstances stage))
  | unknownStage {stage : String} {target : Nat} (alive : run.state = .alive)
      (some_instances : target ≠ 0) (undeclared : stage ∉ run.context.flow.stageNames) :
      Waived run (.changeInstances stage target) (.error (.unknownStage stage))
  | unchanged {stage : String} {target : Nat} (alive : run.state = .alive)
      (some_instances : target ≠ 0) (declared : stage ∈ run.context.flow.stageNames)
      (same : target = Registry.liveCount run.registry stage) :
      Waived run (.changeInstances stage target) (.ok ())

inductive CarriedOut (run : Run) : RunRequest → List Exchange → Run → Outcome → Prop where
  | suspended (alive : run.state = .alive) (report : Report StageKey) :
      CarriedOut run .suspend [⟨.fanOut .suspend run.registry.all, report⟩]
        (((run.transition .suspending none).countOpFailures report.failed.length).transition
          .suspended none) (.ok ())
  | resumed (suspended : run.state = .suspended) (report : Report StageKey) :
      CarriedOut run .resume [⟨.fanOut .resume run.registry.all, report⟩]
        (((run.transition .resuming none).countOpFailures report.failed.length).transition
          .alive none) (.ok ())
  | stopped (going : run.state = .alive ∨ run.state = .suspended) (report : Report StageKey) :
      CarriedOut run .stop [⟨.fanOut .stop run.registry.all, report⟩]
        ((run.woundDown report.failed.length).transition .stopped none) (.ok ())
  | rescaled {stage : String} {target : Nat} {spec : StageSpec} (due : Due run stage target spec)
      {log : List Exchange} {run' : Run} {x : Outcome}
      (course : Rescaled run spec (Registry.liveCount run.registry stage) target log run' x) :
      CarriedOut run (.changeInstances stage target) log run' x

def Settled (run : Run) : Prop := run.state ∈ [.alive, .suspended, .stopped, .error]

section
variable {run run' : Run} {request : RunRequest} {log : List Exchange} {x : Outcome}
  {answer : RunAnswer}

/-! ### Waived requests -/

theorem requiring_other {verb : RunVerb} {allowed : List RunState} {op : Operation Outcome}
    (other : run.state ∉ allowed) :
    requiring verb allowed op run = .done run (.error (.wrongState verb run.state)) := by
  simp [requiring, other]

theorem Waived.done (waived : Waived run request x) :
    request.operation run = .done run (.outcome x) := by
  have mapped {op : Operation Outcome} (ended : op run = .done run x) :
      (RunAnswer.outcome <$> op) run = .done run (.outcome x) := by
    change (op run).bind _ = _
    rw [ended]
    rfl
  cases waived with
  | suspend unready => exact mapped (requiring_other (by simpa using unready))
  | resume unready => exact mapped (requiring_other (by simpa using unready))
  | stop failed =>
    apply mapped
    simp [Operation.stop, failed, requiring]
  | stopped finished =>
    apply mapped
    simp [Operation.stop, finished]
  | rescale unready => exact mapped (requiring_other (by simpa using unready))
  | noInstances alive =>
    apply mapped
    simp [changeInstances, requiring, alive]
  | unknownStage alive some_instances undeclared =>
    apply mapped
    simp [changeInstances, requiring, alive, some_instances,
      FlowSpec.stage?_eq_none.mpr undeclared]
  | @unchanged stage _ alive some_instances declared same =>
    apply mapped
    cases found : run.context.flow.stage? stage with
    | none => exact absurd declared (FlowSpec.stage?_eq_none.mp found)
    | some spec => simp [changeInstances, requiring, alive, some_instances, found, ← same]

theorem Waived.returns (waived : Waived run request x)
    (returned : Returns request.operation run log run' answer) :
    log = [] ∧ run' = run ∧ answer = .outcome x := by
  rw [Returns, waived.done] at returned
  obtain ⟨rfl, ended⟩ := Activity.leads_done_iff.mp returned
  cases ended
  exact ⟨rfl, rfl, rfl⟩

/-! ### Requests that are carried out -/

theorem CarriedOut.asks (carried : CarriedOut run request log run' x) : log ≠ [] := by
  cases carried with
  | suspended alive report => simp
  | resumed suspended report => simp
  | stopped going report => simp
  | rescaled due course =>
    cases course with
    | failed work report => simp
    | complete work =>
      cases work with
      | grown more around started =>
        cases around
        simp
      | shrunk fewer stopped around => simp

theorem CarriedOut.outcome (carried : CarriedOut run request log run' x) :
    x = .ok () ∨ ∃ stage target cause, request = .changeInstances stage target ∧
      x = .error (.rescaleFailed stage target cause) := by
  cases carried with
  | suspended alive report => exact .inl rfl
  | resumed suspended report => exact .inl rfl
  | stopped going report => exact .inl rfl
  | @rescaled stage target spec due log run' x course =>
    cases course with
    | complete work => exact .inl rfl
    | failed work report =>
      have named := FlowSpec.name_of_stage? due.found
      exact .inr ⟨stage, target, _, rfl, by rw [named]⟩

/-! ### Every course of a request -/

/-- What a course of a request may be: nothing was done, the work was done, or instances were
listed. -/
inductive Dealt (run : Run) (request : RunRequest) (log : List Exchange) (run' : Run) :
    RunAnswer → Prop where
  | waived {x : Outcome} (waived : Waived run request x) (idle : log = [])
      (same : run' = run) : Dealt run request log run' (.outcome x)
  | carried {x : Outcome} (carried : CarriedOut run request log run' x) :
      Dealt run request log run' (.outcome x)
  | listed {stage : String} (asked : request = .instanceIds stage) (idle : log = [])
      (same : run' = run) :
      Dealt run request log run' (.ids (Registry.instanceIds run.registry stage))

theorem dealt_turned {verb : RunVerb} {state through target : RunState} {op : InstanceOp}
    (work : ∀ report : Report StageKey, run.state = state →
      CarriedOut run request [⟨.fanOut op run.registry.all, report⟩]
        (((run.transition through none).countOpFailures report.failed.length).transition
          target none) (.ok ()))
    (turned_away : run.state ≠ state → Waived run request (.error (.wrongState verb run.state)))
    (returned : Returns (RunAnswer.outcome <$> requiring verb [state] (turnAll through target op))
      run log run' answer) :
    Dealt run request log run' answer := by
  obtain ⟨x, went, rfl⟩ := returns_outcome returned
  rcases returns_requiring.mp went with ⟨allowed, turned⟩ | ⟨other, rfl, rfl, rfl⟩
  · obtain ⟨report, rfl, rfl, rfl⟩ := returns_turnAll turned
    exact .carried (work report (by simpa using allowed))
  · exact .waived (turned_away (by simpa using other)) rfl rfl

theorem dealt_stop (settled : Settled run)
    (returned : Returns RunRequest.stop.operation run log run' answer) :
    Dealt run .stop log run' answer := by
  simp only [Settled, List.mem_cons, List.not_mem_nil, or_false] at settled
  have done {x : Outcome} (waived : Waived run .stop x) : Dealt run .stop log run' answer := by
    obtain ⟨rfl, rfl, rfl⟩ := waived.returns returned
    exact .waived waived rfl rfl
  have work (going : run.state = .alive ∨ run.state = .suspended) :
      Dealt run .stop log run' answer := by
    obtain ⟨x, went, rfl⟩ := returns_outcome returned
    have unfinished : run.state ≠ .stopped := by
      rcases going with here | here <;> simp [here]
    have allowed : run.state ∈ [RunState.starting, .alive, .suspended] := by
      rcases going with here | here <;> simp [here]
    simp only [Returns, Operation.stop, unfinished, if_false] at went
    rcases returns_requiring.mp went with ⟨_, brought_down⟩ | ⟨other, _⟩
    · obtain ⟨report, rest, rfl, onward⟩ := returns_windDown_bind.mp brought_down
      obtain ⟨rfl, rfl, rfl⟩ := returns_pure.mp onward
      exact .carried (.stopped going report)
    · exact absurd allowed other
  rcases settled with alive | suspended | finished | failed
  · exact work (.inl alive)
  · exact work (.inr suspended)
  · exact done (.stopped finished)
  · exact done (.stop failed)

theorem waived_of_not_due {stage : String} {target : Nat}
    (idle : ∀ spec, ¬ Due run stage target spec) :
    ∃ x, Waived run (.changeInstances stage target) x := by
  by_cases alive : run.state = .alive
  · by_cases none : target = 0
    · subst none
      exact ⟨_, .noInstances alive⟩
    · cases found : run.context.flow.stage? stage with
      | none =>
        exact ⟨_, .unknownStage alive none (FlowSpec.stage?_eq_none.mp found)⟩
      | some spec =>
        have declared : stage ∈ run.context.flow.stageNames := by
          by_contra undeclared
          rw [FlowSpec.stage?_eq_none.mpr undeclared] at found
          cases found
        have same : target = Registry.liveCount run.registry stage := by
          by_contra differs
          exact idle spec ⟨alive, none, found, Ne.symm differs⟩
        exact ⟨_, .unchanged alive none declared same⟩
  · exact ⟨_, .rescale alive⟩

theorem dealt_rescale {stage : String} {target : Nat}
    (returned : Returns (RunRequest.changeInstances stage target).operation run log run' answer) :
    Dealt run (.changeInstances stage target) log run' answer := by
  by_cases busy : ∃ spec, Due run stage target spec
  · obtain ⟨spec, due⟩ := busy
    obtain ⟨x, went, rfl⟩ := returns_outcome returned
    rw [Returns, changeInstances_due due] at went
    exact .carried (.rescaled due (returns_rescale went))
  · obtain ⟨x, waived⟩ := waived_of_not_due (not_exists.mp busy)
    obtain ⟨rfl, rfl, rfl⟩ := waived.returns returned
    exact .waived waived rfl rfl

theorem dealt_request (settled : Settled run)
    (returned : Returns request.operation run log run' answer) : Dealt run request log run' answer := by
  cases request with
  | suspend => exact dealt_turned (fun report alive => .suspended alive report) .suspend returned
  | resume => exact dealt_turned (fun report suspended => .resumed suspended report) .resume returned
  | stop => exact dealt_stop settled returned
  | changeInstances stage target => exact dealt_rescale returned
  | instanceIds stage =>
    rw [RunRequest.operation, returns_read_bind] at returned
    obtain ⟨rfl, rfl, rfl⟩ := returns_pure.mp returned
    exact .listed rfl rfl rfl

theorem waived_iff (settled : Settled run)
    (returned : Returns request.operation run log run' answer) :
    Waived run request x ↔ log = [] ∧ run' = run ∧ answer = .outcome x := by
  constructor
  · intro waived
    exact waived.returns returned
  · rintro ⟨idle, rfl, same⟩
    cases dealt_request settled returned with
    | waived waived =>
      cases same
      exact waived
    | carried carried => exact absurd idle carried.asks
    | listed => cases same

theorem turnedAway_iff (settled : Settled run) {reason : Failure}
    (early : ∀ stage target cause, reason ≠ .rescaleFailed stage target cause)
    (returned : Returns request.operation run log run' answer) :
    answer = .outcome (.error reason) ↔ Waived run request (.error reason) := by
  constructor
  · intro same
    cases dealt_request settled returned with
    | waived waived =>
      cases same
      exact waived
    | carried carried =>
      cases same
      rcases carried.outcome with impossible | ⟨stage, target, cause, _, late⟩
      · cases impossible
      · cases late
        exact absurd rfl (early stage target cause)
    | listed => cases same
  · intro waived
    exact (waived.returns returned).2.2

theorem Waived.kind {reason : Failure} (waived : Waived run request (.error reason)) :
    reason.kind? ∈ [some .invalidInput, some .unknownStage, some .invalidState] := by
  cases waived with
  | suspend | resume | stop | rescale => exact .tail _ (.tail _ List.mem_cons_self)
  | noInstances => exact List.mem_cons_self
  | unknownStage => exact .tail _ List.mem_cons_self

/-- The kind of an error tells whether anything was done: only a rescale that fails on the way has
asked for something, and it ends the run. -/
theorem kind_of_error (settled : Settled run) {reason : Failure}
    (returned : Returns request.operation run log run' (.outcome (.error reason))) :
    reason.kind? = some .rescaleFailed ∧ log ≠ [] ∧ run'.state = .error ∨
      reason.kind? ∈ [some .invalidInput, some .unknownStage, some .invalidState] ∧
        log = [] ∧ run' = run := by
  cases dealt_request settled returned with
  | waived waived idle same => exact .inr ⟨waived.kind, idle, same⟩
  | carried carried =>
    have asked := carried.asks
    cases carried with
    | rescaled due course =>
      cases course with
      | failed work report => exact .inl ⟨rfl, asked, rfl⟩

/-! ### What is decided -/

def RunAnswer.IsWrongState (answer : RunAnswer) : Prop :=
  ∃ verb state, answer = .outcome (.error (.wrongState verb state))

def Unneeded (run : Run) (log : List Exchange) (run' : Run) (answer : RunAnswer) : Prop :=
  log = [] ∧ run' = run ∧ answer = .outcome (.ok ())

/-- What becomes of a request for another number of instances, each reason coming before the next. -/
structure RescaleDecided (run : Run) (stage : String) (target : Nat) (log : List Exchange)
    (run' : Run) (answer : RunAnswer) : Prop where
  wrongState : answer.IsWrongState ↔ run.state ≠ .alive
  noInstances : run.state = .alive →
    (answer = .outcome (.error (.noInstances stage)) ↔ target = 0)
  unknownStage : run.state = .alive → target ≠ 0 →
    (answer = .outcome (.error (.unknownStage stage)) ↔ stage ∉ run.context.flow.stageNames)
  unneeded : run.state = .alive → target ≠ 0 → stage ∈ run.context.flow.stageNames →
    (Unneeded run log run' answer ↔ target = Registry.liveCount run.registry stage)

/-- How a run decides on requests: which of them are waived, and that it carries out the others. -/
structure Decided (run : Run) : Prop where
  suspend : ∀ log run' answer, Returns RunRequest.suspend.operation run log run' answer →
    (answer.IsWrongState ↔ run.state ≠ .alive)
  resume : ∀ log run' answer, Returns RunRequest.resume.operation run log run' answer →
    (answer.IsWrongState ↔ run.state ≠ .suspended)
  stop : ∀ log run' answer, Returns RunRequest.stop.operation run log run' answer →
    (answer.IsWrongState ↔ run.state = .error) ∧
    (Unneeded run log run' answer ↔ run.state = .stopped)
  rescale : ∀ stage target log run' answer,
    Returns (RunRequest.changeInstances stage target).operation run log run' answer →
    RescaleDecided run stage target log run' answer
  waived : ∀ request x, Waived run request x →
    request.operation run = .done run (.outcome x)
  carriedOut : ∀ request log run' answer, (∀ x, ¬ Waived run request x) →
    Returns request.operation run log run' answer →
    (∃ stage, request = .instanceIds stage) ∨
      ∃ x, answer = .outcome x ∧ CarriedOut run request log run' x
  stopped : run.state ≠ .error → ∀ log run' answer,
    Returns RunRequest.stop.operation run log run' answer →
    answer = .outcome (.ok ()) ∧ run'.state = .stopped
  stoppable : run.state ≠ .error → ∀ log b, (RunRequest.stop.operation run).Leads log b →
    ∃ more run', b.Leads more (.done run' (.outcome (.ok ()))) ∧ run'.state = .stopped

theorem wrongState_iff (settled : Settled run)
    (returned : Returns request.operation run log run' answer) :
    answer.IsWrongState ↔
      ∃ verb state, Waived run request (.error (.wrongState verb state)) := by
  unfold RunAnswer.IsWrongState
  apply exists_congr
  intro verb
  apply exists_congr
  intro state
  apply turnedAway_iff settled _ returned
  intro stage target cause same
  cases same

theorem rescaleDecided (settled : Settled run) {stage : String} {target : Nat}
    (returned : Returns (RunRequest.changeInstances stage target).operation run log run' answer) :
    RescaleDecided run stage target log run' answer where
  wrongState := by
    rw [wrongState_iff settled returned]
    constructor
    · rintro ⟨verb, state, waived⟩
      cases waived with
      | rescale unready => exact unready
    · intro unready
      exact ⟨_, _, .rescale unready⟩
  noInstances := by
    intro alive
    rw [turnedAway_iff settled (by simp) returned]
    constructor
    · intro waived
      cases waived
      rfl
    · rintro rfl
      exact .noInstances alive
  unknownStage := by
    intro alive some_instances
    rw [turnedAway_iff settled (by simp) returned]
    constructor
    · intro waived
      cases waived with
      | unknownStage _ _ undeclared => exact undeclared
    · intro undeclared
      exact .unknownStage alive some_instances undeclared
  unneeded := by
    intro alive some_instances declared
    rw [Unneeded, ← waived_iff settled returned]
    constructor
    · intro waived
      cases waived with
      | unchanged _ _ _ same => exact same
    · intro same
      exact .unchanged alive some_instances declared same

theorem stopped_of_stop (settled : Settled run) (sound : run.state ≠ .error)
    (returned : Returns RunRequest.stop.operation run log run' answer) :
    answer = .outcome (.ok ()) ∧ run'.state = .stopped := by
  cases dealt_request settled returned with
  | waived waived idle same =>
    cases waived with
    | stop failed => exact absurd failed sound
    | stopped finished => exact ⟨rfl, same ▸ finished⟩
  | carried carried =>
    cases carried
    exact ⟨rfl, rfl⟩
  | listed asked => cases asked

theorem decided_of_settled (settled : Settled run) : Decided run where
  suspend := by
    intro log run' answer returned
    rw [wrongState_iff settled returned]
    constructor
    · rintro ⟨verb, state, waived⟩
      cases waived with
      | suspend unready => exact unready
    · intro unready
      exact ⟨_, _, .suspend unready⟩
  resume := by
    intro log run' answer returned
    rw [wrongState_iff settled returned]
    constructor
    · rintro ⟨verb, state, waived⟩
      cases waived with
      | resume unready => exact unready
    · intro unready
      exact ⟨_, _, .resume unready⟩
  stop := by
    intro log run' answer returned
    rw [wrongState_iff settled returned, Unneeded, ← waived_iff settled returned]
    constructor
    · constructor
      · rintro ⟨verb, state, waived⟩
        cases waived with
        | stop failed => exact failed
      · intro failed
        exact ⟨_, _, .stop failed⟩
    · constructor
      · intro waived
        cases waived with
        | stopped finished => exact finished
      · intro finished
        exact .stopped finished
  rescale := by
    intro stage target log run' answer returned
    exact rescaleDecided settled returned
  waived := by
    intro request x waived
    exact waived.done
  carriedOut := by
    intro request log run' answer wanted returned
    cases dealt_request settled returned with
    | waived waived => exact absurd waived (wanted _)
    | carried carried => exact .inr ⟨_, rfl, carried⟩
    | listed asked => exact .inl ⟨_, asked⟩
  stopped := by
    intro sound log run' answer returned
    exact stopped_of_stop settled sound returned
  stoppable := by
    intro sound log b leads
    obtain ⟨more, run', answer, ended, _⟩ := b.exists_refused_end
    obtain ⟨rfl, finished⟩ := stopped_of_stop settled sound (leads.trans ended)
    exact ⟨more, run', ended, finished⟩

end

/-! ### One request after the other -/

structure Service where
  request : RunRequest
  log : List Exchange
  answer : RunAnswer

inductive Serves : Run → List Service → Run → Prop where
  | none (run : Run) : Serves run [] run
  | next {run run' last : Run} {service : Service} {rest : List Service}
      (returned : Returns service.request.operation run service.log run' service.answer)
      (later : Serves run' rest last) : Serves run (service :: rest) last

section
variable {run run' last : Run} {series more : List Service}

theorem Serves.trans (first : Serves run series run') (second : Serves run' more last) :
    Serves run (series ++ more) last := by
  induction first with
  | none run => exact second
  | next returned later ih => exact .next returned (ih second)

theorem Serves.reached {c : RunContext} {log : List Exchange} (serves : Serves run series run')
    (reached : Reached c log run) : Reached c (log ++ series.flatMap (·.log)) run' := by
  induction serves generalizing log with
  | none run => simpa using reached
  | @next run run' last service rest returned later ih =>
    have onward := ih (reached.answered returned)
    rwa [List.append_assoc] at onward

theorem Serves.of_ended (settled : Settled run) (ended : run.state.isTerminal = true)
    (serves : Serves run series run') : run' = run ∧ ∀ service ∈ series, service.log = [] := by
  induction serves with
  | none run => simp
  | @next run run' last service rest returned later ih =>
    obtain ⟨request, log, answer⟩ := service
    have idle : log = [] ∧ run' = run := by
      cases dealt_request settled returned with
      | waived _ idle same => exact ⟨idle, same⟩
      | listed _ idle same => exact ⟨idle, same⟩
      | carried carried =>
        cases carried with
        | suspended alive => simp [alive, RunState.isTerminal] at ended
        | resumed suspended => simp [suspended, RunState.isTerminal] at ended
        | stopped going => rcases going with here | here <;> simp [here, RunState.isTerminal] at ended
        | rescaled due => simp [due.alive, RunState.isTerminal] at ended
    obtain ⟨unasked, rfl⟩ := idle
    obtain ⟨same, rests⟩ := ih settled ended
    exact ⟨same, List.forall_mem_cons.mpr ⟨unasked, rests⟩⟩

end

/-! ### Counts of 32 bits

Counts are unbounded here. While none but counts of 32 bits are asked for, no stage has more
instances than that, so nothing is lost. -/

def Run.CountsFit (run : Run) : Prop :=
  ∀ name, Registry.liveCount run.registry name < UInt32.size

def RunRequest.Fits : RunRequest → Prop
  | .changeInstances _ target => target < UInt32.size
  | _ => True

section
variable {c : RunContext} {run run' : Run} {log : List Exchange}

theorem countsFit_start (accepted : c.flow.Accepted)
    (returned : Returns start (.starting c) log run (.ok ())) : run.CountsFit := by
  intro name
  generalize same : (Except.ok () : Outcome) = x at returned
  cases returns_start returned with
  | unbound e => cases same
  | withdrawn started report => cases same
  | complete started =>
    have numbered := (started_numbered accepted started).liveCount name
    exact numbered.trans_lt (c.flow.declared_lt name)

theorem CarriedOut.countsFit {request : RunRequest} {x : Outcome}
    (carried : CarriedOut run request log run' x) (sound : Sound c run) (fits : request.Fits)
    (fit : run.CountsFit) : run'.CountsFit := by
  intro name
  cases carried with
  | suspended alive report => exact fit name
  | resumed suspended report => exact fit name
  | stopped going report => exact Nat.two_pow_pos 32
  | @rescaled stage target spec due log run' x course =>
    have named := FlowSpec.name_of_stage? due.found
    cases course with
    | @complete log registry work =>
      rw [← named] at work
      have staffed := sound.staffed (.inl due.alive)
      have left := (reshaped_numbered staffed.keys work).liveCount name
      rw [leftWith_ok work] at left
      have counted : Registry.liveCount (run.reshaped registry (missed log)).registry name
          = Registry.liveCount registry name := rfl
      rw [counted, left, Function.update_apply]
      split
      · exact fits
      · exact fit name
    | failed work report => exact Nat.two_pow_pos 32

theorem Serves.countsFit {last : Run} {series : List Service} (accepted : c.flow.Accepted)
    (serves : Serves run series last) (reached : Reached c log run)
    (fits : ∀ service ∈ series, service.request.Fits) (fit : run.CountsFit) : last.CountsFit := by
  induction serves generalizing log with
  | none run => exact fit
  | @next run run' last service rest returned later ih =>
    obtain ⟨here, others⟩ := List.forall_mem_cons.mp fits
    have sound := sound_of_accepted accepted reached
    have afterwards : run'.CountsFit := by
      obtain ⟨request, log', answer⟩ := service
      cases dealt_request sound.settled returned with
      | waived _ _ same => exact same ▸ fit
      | listed _ _ same => exact same ▸ fit
      | carried carried => exact carried.countsFit sound here fit
    exact ih (reached.answered returned) others afterwards

theorem countsFit_of_requests {last : Run} {series : List Service} (accepted : c.flow.Accepted)
    (returned : Returns start (.starting c) log run (.ok ())) (serves : Serves run series last)
    (fits : ∀ service ∈ series, service.request.Fits) : last.CountsFit :=
  serves.countsFit accepted (.started returned) fits (countsFit_start accepted returned)

end
end FlowRuntime
