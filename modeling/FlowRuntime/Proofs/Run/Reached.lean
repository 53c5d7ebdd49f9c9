import FlowRuntime.Proofs.FlowSpec
import FlowRuntime.Proofs.Run.Rescale

/-!
The runs that a program can come to: it is started, and then requests are carried out
one after the other, each with any answers at all to what it asks for. We verify
that between two requests a run is always sound: it is alive, suspended or over, its
instances are numbered without a gap in every declared stage while it is not over,
none is held afterwards, what it shows is what it holds, and it has a cause exactly
if it failed.
-/
namespace FlowRuntime
open Operation

inductive Carried (run : Run) : List Exchange → Run → Prop where
  | idle : Carried run [] run
  | suspended (alive : run.state = .alive) (report : Report StageKey) :
      Carried run [⟨.fanOut .suspend run.registry.all, report⟩]
        (((run.transition .suspending none).countOpFailures report.failed.length).transition
          .suspended none)
  | resumed (suspended : run.state = .suspended) (report : Report StageKey) :
      Carried run [⟨.fanOut .resume run.registry.all, report⟩]
        (((run.transition .resuming none).countOpFailures report.failed.length).transition
          .alive none)
  | stopped (going : run.state ∈ [.starting, .alive, .suspended]) (report : Report StageKey) :
      Carried run [⟨.fanOut .stop run.registry.all, report⟩]
        ((run.woundDown report.failed.length).transition .stopped none)
  | rescaled {stage : String} {target : Nat} {spec : StageSpec} (due : Due run stage target spec)
      {log : List Exchange} {run' : Run} {x : Outcome}
      (course : Rescaled run spec (Registry.liveCount run.registry stage) target log run' x) :
      Carried run log run'

theorem returns_outcome {op : Operation Outcome} {run run' : Run} {log : List Exchange}
    {answer : RunAnswer} (returned : Returns (RunAnswer.outcome <$> op) run log run' answer) :
    ∃ x, Returns op run log run' x ∧ answer = .outcome x := by
  obtain ⟨log₁, run₁, x, log₂, went, answered, rfl⟩ := returns_bind.mp returned
  obtain ⟨rfl, rfl, rfl⟩ := returns_pure.mp answered
  exact ⟨x, by simpa using went, rfl⟩

theorem returns_request {request : RunRequest} {run run' : Run} {log : List Exchange}
    {answer : RunAnswer} (returned : Returns request.operation run log run' answer) :
    Carried run log run' := by
  cases request with
  | suspend =>
    obtain ⟨x, went, _⟩ := returns_outcome returned
    rcases returns_requiring.mp (suspend_eq ▸ went) with ⟨allowed, turned⟩ | ⟨_, rfl, rfl, _⟩
    · obtain ⟨report, rfl, rfl, rfl⟩ := returns_turnAll turned
      exact .suspended (by simpa using allowed) report
    · exact .idle
  | resume =>
    obtain ⟨x, went, _⟩ := returns_outcome returned
    rcases returns_requiring.mp (resume_eq ▸ went) with ⟨allowed, turned⟩ | ⟨_, rfl, rfl, _⟩
    · obtain ⟨report, rfl, rfl, rfl⟩ := returns_turnAll turned
      exact .resumed (by simpa using allowed) report
    · exact .idle
  | stop =>
    obtain ⟨x, went, _⟩ := returns_outcome returned
    rcases returns_stop went with ⟨going, report, rfl, rfl, rfl⟩ | ⟨rfl, rfl⟩
    · exact .stopped going report
    · exact .idle
  | changeInstances stage target =>
    obtain ⟨x, went, _⟩ := returns_outcome returned
    by_cases busy : ∃ spec, Due run stage target spec
    · obtain ⟨spec, due⟩ := busy
      rw [Returns, changeInstances_due due] at went
      exact .rescaled due (returns_rescale went)
    · obtain ⟨y, idle⟩ := changeInstances_idle (not_exists.mp busy)
      rw [Returns, idle] at went
      obtain ⟨rfl, finished⟩ := Activity.leads_done_iff.mp went
      cases finished
      exact .idle
  | instanceIds stage =>
    rw [RunRequest.operation, returns_read_bind] at returned
    obtain ⟨rfl, rfl, rfl⟩ := returns_pure.mp returned
    exact .idle

/-- The runs of a context between two requests, with all that was exchanged before. -/
inductive Reached (c : RunContext) : List Exchange → Run → Prop where
  | started {log : List Exchange} {run : Run}
      (returned : Returns start (.starting c) log run (.ok ())) : Reached c log run
  | answered {log log' : List Exchange} {run run' : Run} {request : RunRequest}
      {answer : RunAnswer} (before : Reached c log run)
      (returned : Returns request.operation run log' run' answer) : Reached c (log ++ log') run'

structure Staffed (flow : FlowSpec) (r : Registry Handle) : Prop where
  numbered : ∀ name, Registry.instanceIds r name = List.range (Registry.liveCount r name)
  declared : ∀ name, 1 ≤ Registry.liveCount r name ↔ name ∈ flow.stageNames

theorem Staffed.keys {flow : FlowSpec} {r : Registry Handle} (staffed : Staffed flow r) :
    Registry.Numbered r (Registry.liveCount r) := by
  intro key
  have listed : key.instanceId ∈ Registry.instanceIds r key.stage ↔ key ∈ r.keys :=
    Registry.mem_instanceIds
  rw [← listed, staffed.numbered, List.mem_range]

theorem Registry.Numbered.staffed {flow : FlowSpec} {r : Registry Handle} {count : String → Nat}
    (numbered : Registry.Numbered r count)
    (declared : ∀ name, 1 ≤ count name ↔ name ∈ flow.stageNames) : Staffed flow r where
  numbered name := by rw [numbered.instanceIds, numbered.liveCount]
  declared name := by rw [numbered.liveCount, declared]

/-- How a run stands between two requests. -/
structure Sound (c : RunContext) (run : Run) : Prop where
  context : run.context = c
  settled : run.state ∈ [.alive, .suspended, .stopped, .error]
  staffed : run.state = .alive ∨ run.state = .suspended → Staffed c.flow run.registry
  emptied : run.state = .stopped ∨ run.state = .error → run.registry = .empty
  published : run.counts = Registry.counts run.registry
  caused : run.cause.isSome ↔ run.state = .error

section
variable {c : RunContext} {log : List Exchange} {run run' : Run}

theorem started_numbered {flow : FlowSpec} (accepted : flow.Accepted)
    {begun : List (StageKey × Handle)}
    (started : Started c (Opening.ofStages flow.stages) log begun (.ok ())) :
    Registry.Numbered (SortedMap.empty.insertAll begun) flow.declared := by
  intro key
  rw [SortedMap.mem_keys_insertAll, started.keys_ok, Opening.mem_ofStages_keys,
    accepted.lt_declared_iff]
  simp [SortedMap.keys, SortedMap.empty]

theorem sound_start (accepted : c.flow.Accepted)
    (returned : Returns start (.starting c) log run (.ok ())) : Sound c run := by
  generalize same : (Except.ok () : Outcome) = x at returned
  cases returns_start returned with
  | unbound e => cases same
  | withdrawn started report => cases same
  | complete started =>
    have numbered := started_numbered accepted started
    exact {
      context := rfl
      settled := by simp [Run.transition]
      staffed := fun _ => numbered.staffed fun _ => accepted.declared_pos_iff
      emptied := by simp [Run.transition]
      published := rfl
      caused := by simp [Run.transition, Run.publish, Run.holdAll, Run.starting] }

theorem sound_over {final : RunState} {cause : Option String} {missed : Nat}
    (context : run.context = c) (last : final = .stopped ∨ final = .error)
    (caused : (cause <|> run.cause).isSome ↔ final = .error) :
    Sound c ((run.woundDown missed).transition final cause) where
  context := context
  settled := by rcases last with rfl | rfl <;> simp [Run.transition]
  staffed := by rcases last with rfl | rfl <;> simp [Run.transition]
  emptied _ := rfl
  published := rfl
  caused := by
    simpa [Run.transition, Run.woundDown, Run.publish, Run.releaseAll, Run.countOpFailures]
      using caused

theorem Sound.uncaused (sound : Sound c run) (fine : run.state ≠ .error) : run.cause = none := by
  cases same : run.cause with
  | none => rfl
  | some text => exact absurd (sound.caused.mp (by simp [same])) fine

theorem sound_turned {through target : RunState} {missed : Nat} (sound : Sound c run)
    (going : run.state = .alive ∨ run.state = .suspended)
    (next : target = .alive ∨ target = .suspended) :
    Sound c (((run.transition through none).countOpFailures missed).transition target none) := by
  have fine : run.state ≠ .error := by
    intro failed
    simp [failed] at going
  have uncaused := sound.uncaused fine
  exact {
    context := sound.context
    settled := by rcases next with rfl | rfl <;> simp [Run.transition]
    staffed := fun _ => sound.staffed going
    emptied := by rcases next with rfl | rfl <;> simp [Run.transition]
    published := sound.published
    caused := by rcases next with rfl | rfl <;> simp [Run.transition, Run.countOpFailures, uncaused] }

theorem Staffed.update {flow : FlowSpec} {r r' : Registry Handle} (staffed : Staffed flow r)
    {name : String} (declared : name ∈ flow.stageNames) {target : Nat} (some_instances : target ≠ 0)
    (numbered : Registry.Numbered r' (Function.update (Registry.liveCount r) name target)) :
    Staffed flow r' := by
  apply numbered.staffed
  intro other
  by_cases same : other = name
  · subst same
    simp only [Function.update_self, declared, iff_true]
    omega
  · rw [Function.update_of_ne same, staffed.declared]

theorem sound_step (sound : Sound c run)
    (carried : Carried run log run') : Sound c run' := by
  cases carried with
  | idle => exact sound
  | suspended alive report => exact sound_turned sound (.inl alive) (.inr rfl)
  | resumed suspended report => exact sound_turned sound (.inr suspended) (.inl rfl)
  | stopped going report =>
    have fine : run.state ≠ .error := by
      intro failed
      simp [failed] at going
    exact sound_over sound.context (.inl rfl) (by simp [sound.uncaused fine])
  | @rescaled stage target spec due _ _ x course =>
    have staffed := sound.staffed (.inl due.alive)
    have named := FlowSpec.name_of_stage? due.found
    cases course with
    | @complete _ registry work =>
      have state : (run.reshaped registry (missed log)).state = run.state := rfl
      rw [← named] at work
      have numbered := reshaped_numbered staffed.keys work
      rw [leftWith_ok work] at numbered
      have declared : spec.name ∈ run.context.flow.stageNames :=
        List.mem_map_of_mem (FlowSpec.mem_of_stage? due.found)
      rw [sound.context] at declared
      exact {
        context := sound.context
        settled := by simp [state, due.alive]
        staffed := fun _ => staffed.update declared due.some_instances numbered
        emptied := by simp [state, due.alive]
        published := rfl
        caused := sound.caused }
    | failed work report =>
      exact sound_over sound.context (.inr rfl) (by simp)

theorem sound_of_accepted (accepted : c.flow.Accepted) (reached : Reached c log run) :
    Sound c run := by
  induction reached with
  | started returned => exact sound_start accepted returned
  | answered before returned ih => exact sound_step ih (returns_request returned)

theorem Reached.due (accepted : c.flow.Accepted) (reached : Reached c log run)
    (alive : run.state = .alive) {spec : StageSpec} (declared : spec ∈ c.flow.stages)
    {target : Nat} (some_instances : 1 ≤ target)
    (differs : target ≠ Registry.liveCount run.registry spec.name) :
    Due run spec.name target spec where
  alive := alive
  some_instances := Nat.ne_of_gt some_instances
  found := by
    rw [(sound_of_accepted accepted reached).context]
    exact accepted.stage?_name declared
  differs := differs.symm

/-- Between two requests, a run of an accepted flow is sound, whatever was refused, late or given up
before. -/
theorem reached_sound {program : Program} {options : RunOptions}
    (made : RunContext.ofProgram program options = .ok c) (reached : Reached c log run) :
    Sound c run :=
  sound_of_accepted (RunContext.accepted_of_ofProgram made) reached

/-! A flow of one stage with one instance, which has been started. -/

def loneStage : StageSpec := ⟨"stage", 1, .empty⟩

def loneFlow : FlowSpec := ⟨"flow", [loneStage], []⟩

def loneProgram : Program :=
  ⟨.flow "default" "app" "flow", ⟨"default", "app", [loneFlow]⟩⟩

def loneOptions : RunOptions := ⟨⟨.zero, 0⟩, .empty, .empty⟩

def loneContext : RunContext := ⟨⟨loneProgram.id, loneOptions.runId⟩, loneFlow, loneOptions⟩

def loneLog : List Exchange :=
  [⟨.bind loneContext.consumerGroups, .ok ()⟩,
    ⟨.start (loneContext.instanceOptions loneStage 0 1), .ok (0 : Handle)⟩]

def loneRun : Run :=
  ((Run.starting loneContext).holdAll [(⟨"stage", 0⟩, 0)]).publish.transition .alive none

theorem lone_made : RunContext.ofProgram loneProgram loneOptions = .ok loneContext := rfl

theorem lone_reached : Reached loneContext loneLog loneRun :=
  .started (.next _ (.next _ (.here _)))

/-! Its stage grows to two instances, though the first of them does not follow when it is suspended. -/

def loneTargets : List (StageKey × Handle) := [(⟨"stage", 0⟩, 0)]

def loneGrowth : List Exchange :=
  [⟨.fanOut .suspend loneTargets, ⟨[], [(⟨"stage", 0⟩, .instanceGone)]⟩⟩,
    ⟨.repartition (loneContext.consumerGroup "stage" 2), .ok ()⟩,
    ⟨.fanOut (.command 2) loneTargets, ⟨[⟨"stage", 0⟩], []⟩⟩,
    ⟨.fanOut .resume loneTargets, ⟨[⟨"stage", 0⟩], []⟩⟩,
    ⟨.start (loneContext.instanceOptions loneStage 1 2), .ok (1 : Handle)⟩]

def loneGrown : Run := loneRun.reshaped (loneRun.registry.insertAll [(⟨"stage", 1⟩, 1)]) 1

theorem lone_grown : Returns (changeInstances "stage" 2) loneRun loneGrowth loneGrown (.ok ()) :=
  .next _ (.next _ (.next _ (.next _ (.next _ (.here _)))))

theorem lone_differs : 2 ≠ Registry.liveCount loneRun.registry loneStage.name := by decide

theorem lone_reached_grown : Reached loneContext (loneLog ++ loneGrowth) loneGrown :=
  @Reached.answered _ _ _ _ _ (.changeInstances "stage" 2) (.outcome (.ok ())) lone_reached
    (.next _ (.next _ (.next _ (.next _ (.next _ (.here _))))))

/-! Or the run fails in the attempt, as the queues of the stage cannot be repartitioned. -/

def loneDenial : Failure := .within (.repartitioning "stage" 2) .instanceGone

def loneDecline : List Exchange :=
  [⟨.fanOut .suspend loneTargets, ⟨[⟨"stage", 0⟩], []⟩⟩,
    ⟨.repartition (loneContext.consumerGroup "stage" 2), .error .instanceGone⟩,
    ⟨.fanOut .stop loneTargets, ⟨[⟨"stage", 0⟩], []⟩⟩]

def loneFailed : Run :=
  ((loneRun.reshaped loneRun.registry 0).countRescaleFailure.woundDown 0).transition .error
    (some loneDenial.chain)

theorem lone_failed :
    Returns (RunRequest.changeInstances "stage" 2).operation loneRun loneDecline loneFailed
      (.outcome (.error (.rescaleFailed "stage" 2 loneDenial))) :=
  .next _ (.next _ (.next _ (.here _)))

theorem lone_reached_failed : Reached loneContext (loneLog ++ loneDecline) loneFailed :=
  lone_reached.answered lone_failed

theorem lone_sound :
    RunContext.ofProgram loneProgram loneOptions = .ok loneContext ∧
      (Reached loneContext loneLog loneRun ∧ Sound loneContext loneRun) ∧
      (Reached loneContext (loneLog ++ loneGrowth) loneGrown ∧ Sound loneContext loneGrown) ∧
      Reached loneContext (loneLog ++ loneDecline) loneFailed ∧ Sound loneContext loneFailed :=
  ⟨lone_made, ⟨lone_reached, reached_sound lone_made lone_reached⟩,
    ⟨lone_reached_grown, reached_sound lone_made lone_reached_grown⟩,
    lone_reached_failed, reached_sound lone_made lone_reached_failed⟩

end
end FlowRuntime
