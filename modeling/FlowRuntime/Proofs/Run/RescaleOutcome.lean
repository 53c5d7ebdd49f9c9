import FlowRuntime.Proofs.Partitioner
import FlowRuntime.Proofs.Run.Reached

/-!
What comes of changing the number of a stage's instances. It succeeds exactly if the
repartition and every start are granted; nothing else is asked for its result. If it
succeeds, only the stage has changed, and it has its new number of instances and of
partitions. If not, the run has ended in `error`, and whoever it still held, new
instances included, was told to stop once and let go of.
-/
namespace FlowRuntime
open Operation

def Call.StaysIn (stage : String) : Call → Prop
  | .bind _ => False
  | .repartition group => group.stage = stage
  | .start options => options.key.stage = stage
  | .fanOut _ targets => ∀ t ∈ targets, t.1.stage = stage

/-- What a rescale cannot do without. -/
def Granted (c : RunContext) (spec : StageSpec) (live target : Nat) (log : List Exchange) : Prop :=
  ⟨.repartition (c.consumerGroup spec.name target), .ok ()⟩ ∈ log ∧
  ∀ id, live ≤ id → id < target →
    ∃ handle : Handle, ⟨.start (c.instanceOptions spec id target), .ok handle⟩ ∈ log

/-- What a rescale that fails has failed by. -/
def Denied (c : RunContext) (spec : StageSpec) (live target : Nat) (log : List Exchange)
    (cause : Failure) : Prop :=
  (∃ e, ⟨.repartition (c.consumerGroup spec.name target), .error e⟩ ∈ log ∧
    cause = .within (.repartitioning spec.name target) e) ∨
  ∃ id e, (live ≤ id ∧ id < target) ∧
    ⟨.start (c.instanceOptions spec id target), .error e⟩ ∈ log ∧
    cause = .within (.startingInstance ⟨spec.name, id⟩) e

section
variable {c : RunContext} {stage : String} {targets : List (StageKey × Handle)} {target : Nat}
  {log : List Exchange} {x : Outcome}

namespace Regrouped

theorem repartitioned_iff (around : Regrouped c stage targets target log x) :
    x = .ok () ↔ ⟨.repartition (c.consumerGroup stage target), .ok ()⟩ ∈ log := by
  cases around <;> simp

theorem not_started (around : Regrouped c stage targets target log x) {options : InstanceOptions}
    {answer : Except Failure Handle} : ⟨.start options, answer⟩ ∉ log := by
  cases around <;> simp

theorem cause {f : Failure} (around : Regrouped c stage targets target log (.error f)) :
    ∃ e, ⟨.repartition (c.consumerGroup stage target), .error e⟩ ∈ log ∧
      f = .within (.repartitioning stage target) e := by
  cases around with
  | refused paused e => exact ⟨e, by simp, rfl⟩

theorem staysIn (around : Regrouped c stage targets target log x)
    (within : ∀ t ∈ targets, t.1.stage = stage) : ∀ e ∈ log, e.call.StaysIn stage := by
  cases around <;> simpa [Call.StaysIn, RunContext.consumerGroup] using within

theorem not_stopped (around : Regrouped c stage targets target log x) (key : StageKey) :
    .request .stop key ∉ callsOf log := by
  cases around <;> simp [Call.logged]

theorem takesAll {p p' : Partitioner} (around : Regrouped c stage targets target log (.ok ()))
    (taken : p.TakesAll log p') : p' = (p.repartition (c.consumerGroup stage target)).1 := by
  cases around with
  | done paused told resumed =>
    simp only [Partitioner.TakesAll, Partitioner.Takes] at taken
    obtain ⟨_, rfl, q, answered | ⟨_, e, failed⟩, _, rfl, _, rfl, rfl⟩ := taken
    · rw [← answered]
    · cases failed

end Regrouped

theorem Started.takesAll {openings : List Opening} {begun : List (StageKey × Handle)}
    {p p' : Partitioner} (started : Started c openings log begun x) (taken : p.TakesAll log p') :
    p' = p := by
  induction started with
  | all => exact taken
  | failed o rest e =>
    obtain ⟨q, rfl, rfl⟩ := taken
    rfl
  | next o given later ih =>
    obtain ⟨q, rfl, rest⟩ := taken
    exact ih rest

end

namespace Reshaped
variable {run : Run} {spec : StageSpec} {live target : Nat} {log : List Exchange}
  {registry : Registry Handle} {x : Outcome}

theorem ok_iff (work : Reshaped run spec live target log registry x) :
    x = .ok () ↔ Granted run.context spec live target log := by
  unfold Granted
  cases work with
  | kept more around =>
    have refused := mt around.repartitioned_iff.mpr (by simp)
    simp [refused]
  | @grown more log log' begun x around started =>
    have regrouped := around.repartitioned_iff.mp rfl
    rw [started.ok_iff (Opening.ofStage_keys_nodup _ _ _ _)]
    constructor
    · intro granted
      refine ⟨List.mem_append_left _ regrouped, fun id low high => ?_⟩
      obtain ⟨handle, mem⟩ := granted ⟨spec, target, id⟩
        (Opening.mem_ofStage.mpr ⟨id, by omega, rfl⟩)
      exact ⟨handle, List.mem_append_right _ mem⟩
    · rintro ⟨_, granted⟩ o mem
      obtain ⟨id, bounds, rfl⟩ := Opening.mem_ofStage.mp mem
      obtain ⟨handle, mem⟩ := granted id bounds.1 (by omega)
      exact ⟨handle, (List.mem_append.mp mem).resolve_left around.not_started⟩
  | shrunk fewer stopped around =>
    rw [around.repartitioned_iff]
    constructor
    · intro regrouped
      exact ⟨List.mem_cons_of_mem _ regrouped, fun id low high => absurd high (by omega)⟩
    · rintro ⟨regrouped, _⟩
      exact (List.mem_cons.mp regrouped).resolve_left (by simp)

theorem cause {f : Failure} (work : Reshaped run spec live target log registry (.error f)) :
    Denied run.context spec live target log f := by
  cases work with
  | kept more around => exact .inl around.cause
  | grown more around started =>
    obtain ⟨o, mem, e, within, same⟩ := started.error_cause
    obtain ⟨id, bounds, rfl⟩ := Opening.mem_ofStage.mp mem
    exact .inr ⟨id, e, by omega, List.mem_append_right _ within, same⟩
  | shrunk fewer stopped around =>
    obtain ⟨e, mem, same⟩ := around.cause
    exact .inl ⟨e, List.mem_cons_of_mem _ mem, same⟩

theorem started_bounds (work : Reshaped run spec live target log registry x)
    {options : InstanceOptions} {answer : Except Failure Handle}
    (mem : ⟨.start options, answer⟩ ∈ log) :
    options.key.stage = spec.name ∧ live ≤ options.key.instanceId ∧
      options.key.instanceId < target := by
  cases work with
  | kept more around => exact absurd mem around.not_started
  | grown more around started =>
    have within := (List.mem_append.mp mem).resolve_left around.not_started
    obtain ⟨o, listed, same⟩ := started.only_starts within
    obtain ⟨id, bounds, rfl⟩ := Opening.mem_ofStage.mp listed
    injection same with same
    subst same
    exact ⟨rfl, bounds.1, by simp only [Opening.options_key, Opening.key]; omega⟩
  | shrunk fewer stopped around =>
    exact absurd ((List.mem_cons.mp mem).resolve_left (by simp)) around.not_started

theorem get?_eq_some_iff {count : String → Nat} (numbered : Registry.Numbered run.registry count)
    (work : Reshaped run spec (count spec.name) target log registry x) {key : StageKey}
    {handle : Handle} :
    registry.get? key = some handle ↔
      (run.registry.get? key = some handle ∧ ¬ (key.stage = spec.name ∧ target ≤ key.instanceId)) ∨
      ∃ options, options.key = key ∧ ⟨.start options, .ok handle⟩ ∈ log := by
  -- A stage that grows has nobody yet in the places that it is to have more.
  have placed (more : count spec.name < target) (found : run.registry.get? key = some handle) :
      ¬ (key.stage = spec.name ∧ target ≤ key.instanceId) := by
    rintro ⟨here, beyond⟩
    have within := numbered.lt_of_held found
    rw [here] at within
    omega
  cases work with
  | kept more around =>
    have idle : ¬ ∃ options, options.key = key ∧ ⟨.start options, .ok handle⟩ ∈ log := by
      rintro ⟨options, _, mem⟩
      exact around.not_started mem
    simp only [idle, or_false]
    exact (and_iff_left_of_imp (placed more)).symm
  | @grown more log log' begun x around started =>
    have fresh : (∃ options, options.key = key ∧ ⟨.start options, .ok handle⟩ ∈ log ++ log') ↔
        (key, handle) ∈ begun := by
      rw [started.mem_begun_iff]
      apply exists_congr
      intro options
      rw [List.mem_append, or_iff_right around.not_started]
    have nodup : (begun.map (·.1)).Nodup :=
      started.keys_prefix.sublist.nodup (Opening.ofStage_keys_nodup _ _ _ _)
    have vacant : ∀ key ∈ begun.map (·.1), run.registry.get? key = none := by
      intro key mem
      obtain ⟨o, listed, rfl⟩ := List.mem_map.mp (started.keys_prefix.subset mem)
      exact Opening.ofStage_vacant numbered spec target _ o listed
    rw [fresh, SortedMap.get?_insertAll_eq_some_iff _ nodup vacant]
    apply or_congr_left
    exact (and_iff_left_of_imp (placed more)).symm
  | @shrunk fewer log x stopped around =>
    have idle : ¬ ∃ options, options.key = key ∧ ⟨.start options, .ok handle⟩ ∈
        (⟨.fanOut .stop (excess spec.name (count spec.name) target run), stopped⟩ :: log
          : List Exchange) := by
      rintro ⟨options, _, mem⟩
      exact around.not_started ((List.mem_cons.mp mem).resolve_left (by simp))
    simp only [idle, or_false]
    rw [get?_remaining numbered]
    by_cases excessive : key.stage = spec.name ∧ target ≤ key.instanceId <;> simp [excessive]

theorem staysIn (work : Reshaped run spec live target log registry x) :
    ∀ e ∈ log, e.call.StaysIn spec.name := by
  have listed (r : Registry Handle) : ∀ t ∈ Registry.stage r spec.name, t.1.stage = spec.name := by
    intro t mem
    exact (Registry.mem_stage.mp mem).1
  cases work with
  | kept more around => exact around.staysIn (listed _)
  | grown more around started =>
    intro e mem
    rcases List.mem_append.mp mem with before | after
    · exact around.staysIn (listed _) e before
    · obtain ⟨o, opened, same⟩ := started.only_starts after
      obtain ⟨id, _, rfl⟩ := Opening.mem_ofStage.mp opened
      rw [same]
      rfl
  | shrunk fewer stopped around =>
    intro e mem
    rcases List.mem_cons.mp mem with rfl | after
    · intro t excessive
      exact (mem_excess.mp excessive).1
    · exact around.staysIn (listed _) e after

theorem takesAll {p p' : Partitioner}
    (work : Reshaped run spec live target log registry (.ok ())) (taken : p.TakesAll log p') :
    p' = (p.repartition (run.context.consumerGroup spec.name target)).1 := by
  cases work with
  | grown more around started =>
    obtain ⟨q, before, after⟩ := Partitioner.takesAll_append.mp taken
    rw [started.takesAll after, around.takesAll before]
  | shrunk fewer stopped around =>
    obtain ⟨q, rfl, after⟩ := taken
    exact around.takesAll after

theorem not_stopped (work : Reshaped run spec live target log registry x) {key : StageKey}
    (held : key ∈ registry.keys) : .request .stop key ∉ callsOf log := by
  cases work with
  | kept more around => exact around.not_stopped key
  | grown more around started =>
    rw [callsOf_append, List.mem_append, not_or]
    constructor
    · exact around.not_stopped key
    · intro stopped
      obtain ⟨e, mem, logged⟩ := List.mem_flatMap.mp stopped
      obtain ⟨o, _, same⟩ := started.only_starts mem
      simp [same, Call.logged] at logged
  | shrunk fewer stopped around =>
    rw [callsOf_cons, List.mem_append, not_or]
    constructor
    · intro told
      obtain ⟨t, excessive, same⟩ := List.mem_map.mp told
      injection same with _ same
      rw [Run.remaining, SortedMap.mem_keys_eraseAll] at held
      exact held.1 (same ▸ List.mem_map_of_mem excessive)
    · exact around.not_stopped key

theorem stopped_once (work : Reshaped run spec live target log registry x)
    (report : Report StageKey) {key : StageKey} (held : key ∈ registry.keys) :
    (callsOf (log ++ [⟨.fanOut .stop (Registry.all registry), report⟩])).count
      (.request .stop key) = 1 := by
  have last : (Call.fanOut .stop (Registry.all registry)).logged =
      registry.keys.map (Rehearsal.LoggedCall.request .stop) := by
    simp [Call.logged, Registry.all, SortedMap.keys]
  have nodup : (registry.keys.map (Rehearsal.LoggedCall.request .stop)).Nodup := by
    apply List.Nodup.map _ (SortedMap.ascending_nodup registry.keys_ascending)
    intro a b same
    injection same
  -- The last fan-out lists each key once, and no stop of a key that is still held came before it.
  rw [callsOf_append, List.count_append, List.count_eq_zero_of_not_mem (work.not_stopped held)]
  simp only [callsOf_cons, callsOf_nil, List.append_nil, last]
  rw [List.count_eq_one_of_mem nodup (List.mem_map_of_mem held)]

end Reshaped

/-- How a rescale that succeeds leaves the run: nothing has changed but the one stage. -/
structure Resized (c : RunContext) (run : Run) (spec : StageSpec) (target : Nat)
    (log : List Exchange) (run' : Run) : Prop where
  alive : run'.state = .alive
  untold : run'.story = run.story
  ids : Registry.instanceIds run'.registry spec.name = List.range target
  kept : ∀ id, id < min (Registry.liveCount run.registry spec.name) target →
    run'.registry.get? ⟨spec.name, id⟩ = run.registry.get? ⟨spec.name, id⟩
  others : ∀ other, other ≠ spec.name →
    Registry.stage run'.registry other = Registry.stage run.registry other
  within : ∀ e ∈ log, e.call.StaysIn spec.name
  partitioned : ∀ p p' : Partitioner, p.TakesAll log p' →
    p'.stagePartitions? spec.name = some target ∧
    (∀ queue ∈ c.binding.queues spec.name,
      p'.partitions? queue (groupId c.run.program spec.name) = some target) ∧
    ∀ queue group, group ≠ groupId c.run.program spec.name →
      p'.partitions? queue group = p.partitions? queue group

namespace Resized
variable {c : RunContext} {run run' : Run} {spec : StageSpec} {target : Nat} {log : List Exchange}

theorem liveCount (resized : Resized c run spec target log run') :
    Registry.liveCount run'.registry spec.name = target := by
  rw [← Registry.length_instanceIds, resized.ids, List.length_range]

theorem liveCount_others (resized : Resized c run spec target log run') {stage : String}
    (apart : stage ≠ spec.name) :
    Registry.liveCount run'.registry stage = Registry.liveCount run.registry stage :=
  congrArg List.length (resized.others stage apart)

theorem get?_others (resized : Resized c run spec target log run') {key : StageKey}
    (apart : key.stage ≠ spec.name) : run'.registry.get? key = run.registry.get? key := by
  apply Option.ext
  intro handle
  have before : (key, handle) ∈ Registry.stage run.registry key.stage ↔ _ := Registry.mem_stage
  have after : (key, handle) ∈ Registry.stage run'.registry key.stage ↔ _ := Registry.mem_stage
  rw [resized.others key.stage apart] at after
  tauto

theorem beyond (resized : Resized c run spec target log run')
    (staffed : Registry.Numbered run.registry (Registry.liveCount run.registry)) {key : StageKey}
    {handle : Handle} (held : run.registry.get? key = some handle)
    (apart : run'.registry.get? key ≠ some handle) :
    key.stage = spec.name ∧ target ≤ key.instanceId := by
  have here : key.stage = spec.name := by
    by_contra elsewhere
    rw [resized.get?_others elsewhere] at apart
    exact apart held
  refine ⟨here, ?_⟩
  by_contra low
  have within := staffed.lt_of_held held
  have kept := resized.kept key.instanceId (by rw [here] at within; omega)
  have same : (⟨spec.name, key.instanceId⟩ : StageKey) = key := by rw [← here]
  rw [same, held] at kept
  exact apart kept

end Resized

/-- How a rescale that fails leaves the run: it has ended, and everyone still held was told to stop,
once, and let go of. -/
structure Abandoned (c : RunContext) (run : Run) (spec : StageSpec) (target : Nat)
    (log : List Exchange) (run' : Run) (failure : Failure) : Prop where
  denied : Denied c spec (Registry.liveCount run.registry spec.name) target log failure
  state : run'.state = .error
  cause : run'.cause = some failure.chain
  story : run'.story = run.story ++
    [⟨some .alive, .stopping, none⟩, ⟨some .stopping, .error, some failure.chain⟩]
  emptied : run'.registry = .empty
  published : run'.counts = .empty
  stopped : ∃ work registry report,
    log = work ++ [⟨.fanOut .stop (Registry.all registry), report⟩] ∧
    (∀ key handle, registry.get? key = some handle ↔
      (run.registry.get? key = some handle ∧ ¬ (key.stage = spec.name ∧ target ≤ key.instanceId)) ∨
      ∃ options, options.key = key ∧ ⟨.start options, .ok handle⟩ ∈ log) ∧
    ∀ key ∈ registry.keys, (callsOf log).count (.request .stop key) = 1

section
variable {c : RunContext} {run run' : Run} {spec : StageSpec} {target : Nat} {log : List Exchange}
  {registry : Registry Handle}

theorem Reshaped.resized (staffed : Staffed c.flow run.registry) (context : run.context = c)
    (alive : run.state = .alive) (some_instances : target ≠ 0)
    (work : Reshaped run spec (Registry.liveCount run.registry spec.name) target log registry
      (.ok ())) :
    Resized c run spec target log (run.reshaped registry (missed log)) := by
  have numbered := reshaped_numbered staffed.keys work
  rw [leftWith_ok work] at numbered
  have looked {key : StageKey} (apart : key.stage = spec.name →
      key.instanceId < min (Registry.liveCount run.registry spec.name) target) :
      registry.get? key = run.registry.get? key := by
    apply Option.ext
    intro handle
    rw [work.get?_eq_some_iff staffed.keys]
    constructor
    · rintro (⟨found, _⟩ | ⟨options, rfl, mem⟩)
      · exact found
      · obtain ⟨here, low, high⟩ := work.started_bounds mem
        have := apart here
        omega
    · intro found
      refine .inl ⟨found, ?_⟩
      rintro ⟨here, beyond⟩
      have := apart here
      omega
  exact {
    alive := alive
    untold := rfl
    ids := by
      have ids := numbered.instanceIds spec.name
      rwa [Function.update_self] at ids
    kept := fun id low => looked fun _ => low
    others := by
      intro other apart
      apply Registry.stage_congr
      intro key here
      apply looked
      intro there
      exact absurd (here.symm.trans there) apart
    within := work.staysIn
    partitioned := by
      intro p p' taken
      rw [work.takesAll taken, context]
      refine ⟨?_, ?_, ?_⟩
      · rw [Partitioner.stagePartitions?_repartition (g := c.consumerGroup spec.name target)
          some_instances]
        exact if_pos rfl
      · intro queue bound
        rw [Partitioner.partitions?_repartition some_instances]
        exact if_pos ⟨bound, rfl⟩
      · intro queue group apart
        rw [Partitioner.partitions?_repartition some_instances]
        apply if_neg
        intro both
        exact apart both.2 }

theorem Reshaped.abandoned (staffed : Staffed c.flow run.registry) (context : run.context = c)
    (alive : run.state = .alive) {failure : Failure}
    (work : Reshaped run spec (Registry.liveCount run.registry spec.name) target log registry
      (.error failure)) (report : Report StageKey) :
    Abandoned c run spec target (log ++ [⟨.fanOut .stop registry.all, report⟩])
      (((run.reshaped registry (missed log)).countRescaleFailure.woundDown
        report.failed.length).transition .error (some failure.chain)) failure where
  denied := by
    rw [← context]
    rcases work.cause with ⟨e, mem, same⟩ | ⟨id, e, bounds, mem, same⟩
    · exact .inl ⟨e, List.mem_append_left _ mem, same⟩
    · exact .inr ⟨id, e, bounds, List.mem_append_left _ mem, same⟩
  state := rfl
  cause := rfl
  story := by
    have before : (run.reshaped registry (missed log)).countRescaleFailure.story = run.story := rfl
    have state : (run.reshaped registry (missed log)).countRescaleFailure.state = .alive := alive
    simp [Run.transition, Run.woundDown, Run.releaseAll, Run.countOpFailures, Run.publish, before,
      state]
  emptied := rfl
  published := rfl
  stopped := by
    refine ⟨log, registry, report, rfl, ?_, ?_⟩
    · intro key handle
      rw [work.get?_eq_some_iff staffed.keys]
      simp
    · intro key held
      exact work.stopped_once report held

/-- A rescale of a run that is alive succeeds exactly if the repartition and all starts are granted.
If it does, only its stage has changed; if not, the run has ended and everyone is let go of. -/
theorem rescale_outcome {program : Program} {options : RunOptions} {before : List Exchange}
    {x : Outcome} (made : RunContext.ofProgram program options = .ok c)
    (reached : Reached c before run) (alive : run.state = .alive) (declared : spec ∈ c.flow.stages)
    (some_instances : 1 ≤ target)
    (differs : target ≠ Registry.liveCount run.registry spec.name)
    (returned : Returns (changeInstances spec.name target) run log run' x) :
    (x = .ok () ↔ Granted c spec (Registry.liveCount run.registry spec.name) target log) ∧
    (x = .ok () → Resized c run spec target log run') ∧
    (x ≠ .ok () → ∃ failure, x = .error (.rescaleFailed spec.name target failure) ∧
      Abandoned c run spec target log run' failure) := by
  have accepted := RunContext.accepted_of_ofProgram made
  have sound := sound_of_accepted accepted reached
  have staffed := sound.staffed (.inl alive)
  have due := reached.due accepted alive declared some_instances differs
  rw [Returns, changeInstances_due due] at returned
  cases returns_rescale returned with
  | complete work =>
    have granted := work.ok_iff
    rw [sound.context] at granted
    refine ⟨granted, ?_, ?_⟩
    · intro _
      exact work.resized staffed sound.context alive due.some_instances
    · intro failed
      exact absurd rfl failed
  | @failed log registry failure work report =>
    have granted := work.ok_iff
    rw [sound.context] at granted
    refine ⟨?_, ?_, ?_⟩
    · simpa [Granted] using granted
    · intro succeeded
      cases succeeded
    · intro _
      exact ⟨failure, rfl, work.abandoned staffed sound.context alive report⟩

theorem lone_resized :
    Granted loneContext loneStage 1 2 loneGrowth ∧
      Resized loneContext loneRun loneStage 2 loneGrowth loneGrown := by
  have outcome := rescale_outcome lone_made lone_reached rfl List.mem_cons_self (by decide)
    lone_differs lone_grown
  exact ⟨outcome.1.mp rfl, outcome.2.1 rfl⟩

end
end FlowRuntime
