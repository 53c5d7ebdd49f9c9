import FlowRuntime.Proofs.Run.Lifecycle

/-!
What a course of changing the number of a stage's instances looks like. The work on the
stage is kept apart from how the run ends if the work fails: the work leaves a
registry and an outcome, and counts those who did not follow. We verify which calls
are made for all answers; that nothing is left out or made twice is read off the
course.
-/
namespace FlowRuntime

def missed : List Exchange → Nat
  | [] => 0
  | e :: rest => e.missed + missed rest

/-- The courses of repartitioning a stage around the instances that stay. -/
inductive Regrouped (c : RunContext) (stage : String) (targets : List (StageKey × Handle))
    (partitions : Nat) : List Exchange → Outcome → Prop where
  | refused (paused : Report StageKey) (e : Failure) :
      Regrouped c stage targets partitions
        [⟨.fanOut .suspend targets, paused⟩,
          ⟨.repartition (c.consumerGroup stage partitions), .error e⟩]
        (.error (.within (.repartitioning stage partitions) e))
  | done (paused told resumed : Report StageKey) :
      Regrouped c stage targets partitions
        [⟨.fanOut .suspend targets, paused⟩,
          ⟨.repartition (c.consumerGroup stage partitions), .ok ()⟩,
          ⟨.fanOut (.command partitions) targets, told⟩,
          ⟨.fanOut .resume targets, resumed⟩]
        (.ok ())

theorem Regrouped.begunBy_eq {c : RunContext} {stage : String} {targets : List (StageKey × Handle)}
    {partitions : Nat} {log : List Exchange} {x : Outcome}
    (around : Regrouped c stage targets partitions log x) : begunBy log = 0 := by
  cases around <;> rfl

/-- What is left of a registry without those that a smaller stage has no place for. -/
def Run.remaining (run : Run) (stage : String) (live target : Nat) : Registry Handle :=
  ((Operation.excess stage live target run).map (·.1)).foldl SortedMap.erase run.registry

/-- The courses of the work on a stage, with the registry that it leaves. -/
inductive Reshaped (run : Run) (spec : StageSpec) (live target : Nat) :
    List Exchange → Registry Handle → Outcome → Prop where
  | kept (more : live < target) {log : List Exchange} {e : Failure}
      (around : Regrouped run.context spec.name (Registry.stage run.registry spec.name) target
        log (.error e)) :
      Reshaped run spec live target log run.registry (.error e)
  | grown (more : live < target) {log log' : List Exchange} {begun : List (StageKey × Handle)}
      {x : Outcome}
      (around : Regrouped run.context spec.name (Registry.stage run.registry spec.name) target
        log (.ok ()))
      (started : Started run.context (Opening.ofStage spec target (target - live) live) log' begun x) :
      Reshaped run spec live target (log ++ log') (run.registry.insertAll begun) x
  | shrunk (fewer : ¬ live < target) {log : List Exchange} {x : Outcome} (stopped : Report StageKey)
      (around : Regrouped run.context spec.name
        (Registry.stage (run.remaining spec.name live target) spec.name) target log x) :
      Reshaped run spec live target
        (⟨.fanOut .stop (Operation.excess spec.name live target run), stopped⟩ :: log)
        (run.remaining spec.name live target) x

theorem Reshaped.of_countRescale {run : Run} {spec : StageSpec} {live target : Nat}
    {log : List Exchange} {registry : Registry Handle} {x : Outcome}
    (work : Reshaped run.countRescale spec live target log registry x) :
    Reshaped run spec live target log registry x := by
  cases work with
  | kept more around => exact .kept more around
  | grown more around started => exact .grown more around started
  | shrunk fewer stopped around => exact .shrunk fewer stopped around

def Run.reshaped (run : Run) (registry : Registry Handle) (missed : Nat) : Run :=
  ({ run with registry := registry }.countRescale.countOpFailures missed).publish

/-- The courses of a rescale: it is done with the work, or the run ends with the failure of it. -/
inductive Rescaled (run : Run) (spec : StageSpec) (live target : Nat) :
    List Exchange → Run → Outcome → Prop where
  | complete {log : List Exchange} {registry : Registry Handle}
      (work : Reshaped run spec live target log registry (.ok ())) :
      Rescaled run spec live target log (run.reshaped registry (missed log)) (.ok ())
  | failed {log : List Exchange} {registry : Registry Handle} {cause : Failure}
      (work : Reshaped run spec live target log registry (.error cause))
      (report : Report StageKey) :
      Rescaled run spec live target (log ++ [⟨.fanOut .stop registry.all, report⟩])
        (((run.reshaped registry (missed log)).countRescaleFailure.woundDown
          report.failed.length).transition .error (some cause.chain))
        (.error (.rescaleFailed spec.name target cause))

/-- Whether a request to change the number of a stage's instances is one for work. -/
structure Due (run : Run) (stage : String) (target : Nat) (spec : StageSpec) : Prop where
  alive : run.state = .alive
  some_instances : target ≠ 0
  found : run.context.flow.stage? stage = some spec
  differs : Registry.liveCount run.registry stage ≠ target

namespace Operation
variable {run run' : Run} {log : List Exchange} {x : Outcome}

theorem changeInstances_due {stage : String} {target : Nat} {spec : StageSpec}
    (due : Due run stage target spec) :
    changeInstances stage target run =
      rescale spec (Registry.liveCount run.registry stage) target run := by
  simp [changeInstances, requiring, due.alive, due.some_instances, due.found, due.differs]

theorem changeInstances_idle {stage : String} {target : Nat}
    (idle : ∀ spec, ¬ Due run stage target spec) :
    ∃ x, changeInstances stage target run = .done run x := by
  unfold changeInstances requiring
  split
  · rename_i alive
    split
    · exact ⟨_, rfl⟩
    · rename_i some_instances
      beta_reduce
      split
      · exact ⟨_, rfl⟩
      · rename_i spec found
        by_cases same : Registry.liveCount run.registry stage = target
        · simp [same]
        · exact absurd ⟨by simpa using alive, some_instances, found, same⟩ (idle spec)
  · exact ⟨_, rfl⟩

theorem returns_repartitionAround {stage : String} {targets : List (StageKey × Handle)}
    {partitions : Nat}
    (returned : Returns (repartitionAround stage targets partitions) run log run' x) :
    Regrouped run.context stage targets partitions log x ∧
      run' = run.countOpFailures (missed log) := by
  rw [repartitionAround] at returned
  obtain ⟨paused, rest, rfl, onward⟩ := returns_fanOut_bind.mp returned
  obtain ⟨log₁, run₁, y, log₂, first, second, rfl⟩ := returns_bind.mp onward
  rw [repartition, returns_read_bind] at first
  obtain ⟨answer, rest, rfl, answered⟩ := (returns_ask_bind _).mp first
  obtain ⟨rfl, rfl, rfl⟩ := returns_pure.mp answered
  cases answer with
  | error e =>
    obtain ⟨rfl, rfl, rfl⟩ := returns_pure.mp second
    exact ⟨.refused paused e, rfl⟩
  | ok _ =>
    obtain ⟨told, rest, rfl, third⟩ := returns_fanOut_bind.mp second
    obtain ⟨resumed, rest, rfl, fourth⟩ := returns_fanOut_bind.mp third
    obtain ⟨rfl, rfl, rfl⟩ := returns_pure.mp fourth
    refine ⟨.done paused told resumed, ?_⟩
    simp [Run.countOpFailures, missed, Exchange.missed, Nat.add_assoc]

theorem missed_append (log log' : List Exchange) : missed (log ++ log') = missed log + missed log' := by
  induction log with
  | nil => simp [missed]
  | cons e rest ih => rw [List.cons_append, missed, missed, ih, Nat.add_assoc]

theorem started_missed {c : RunContext} {openings : List Opening}
    {begun : List (StageKey × Handle)} (started : Started c openings log begun x) :
    missed log = 0 := by
  induction started with
  | all => rfl
  | failed o rest e => rfl
  | next o handle later ih => simpa [missed, Exchange.missed] using ih

theorem returns_increase {spec : StageSpec} {live target : Nat} (more : live < target)
    (returned : Returns (increase spec live target) run log run' x) :
    ∃ registry, Reshaped run spec live target log registry x ∧
      run' = { run with registry := registry }.countOpFailures (missed log) := by
  rw [increase, returns_read_bind] at returned
  obtain ⟨log₁, run₁, y, log₂, first, second, rfl⟩ := returns_bind.mp returned
  obtain ⟨around, rfl⟩ := returns_repartitionAround first
  cases y with
  | error e =>
    obtain ⟨rfl, rfl, rfl⟩ := returns_pure.mp second
    rw [List.append_nil]
    exact ⟨_, .kept more around, rfl⟩
  | ok _ =>
    obtain ⟨begun, started, rfl⟩ := returns_startInstances second
    refine ⟨_, .grown more around started, ?_⟩
    rw [missed_append, started_missed started]
    rfl

theorem returns_decrease {spec : StageSpec} {live target : Nat} (fewer : ¬ live < target)
    (returned : Returns (decrease spec live target) run log run' x) :
    ∃ registry, Reshaped run spec live target log registry x ∧
      run' = { run with registry := registry }.countOpFailures (missed log) := by
  rw [decrease, returns_read_bind, returns_change_bind] at returned
  obtain ⟨stopped, rest, rfl, onward⟩ := returns_fanOut_bind.mp returned
  rw [returns_read_bind] at onward
  obtain ⟨around, rfl⟩ := returns_repartitionAround onward
  refine ⟨_, .shrunk fewer stopped around, ?_⟩
  simp [Run.countOpFailures, missed, Exchange.missed, Run.release, Run.remaining, Nat.add_assoc]

def conclude (spec : StageSpec) (target : Nat) (outcome : Outcome) : Operation Outcome := do
  change Run.publish
  match outcome with
  | .ok _ => pure (.ok ())
  | .error cause =>
    change Run.countRescaleFailure
    windDown
    transition .error (some cause.chain)
    pure (.error (.rescaleFailed spec.name target cause))

theorem rescale_eq (spec : StageSpec) (live target : Nat) :
    rescale spec live target = change Run.countRescale >>= fun _ =>
      (if live < target then increase spec live target else decrease spec live target) >>=
        conclude spec target := by
  unfold rescale
  by_cases more : live < target
  · simp only [if_pos more]
    rfl
  · simp only [if_neg more]
    rfl

theorem returns_work {spec : StageSpec} {live target : Nat}
    (returned : Returns (if live < target then increase spec live target
      else decrease spec live target) run.countRescale log run' x) :
    ∃ registry, Reshaped run spec live target log registry x ∧
      run' = { run with registry := registry }.countRescale.countOpFailures (missed log) := by
  by_cases more : live < target
  · rw [if_pos more] at returned
    obtain ⟨registry, work, rfl⟩ := returns_increase more returned
    exact ⟨registry, work.of_countRescale, rfl⟩
  · rw [if_neg more] at returned
    obtain ⟨registry, work, rfl⟩ := returns_decrease more returned
    exact ⟨registry, work.of_countRescale, rfl⟩

theorem returns_rescale {spec : StageSpec} {live target : Nat}
    (returned : Returns (rescale spec live target) run log run' x) :
    Rescaled run spec live target log run' x := by
  rw [rescale_eq, returns_change_bind] at returned
  obtain ⟨log₁, run₁, y, log₂, first, second, rfl⟩ := returns_bind.mp returned
  obtain ⟨registry, work, rfl⟩ := returns_work first
  unfold conclude at second
  rw [returns_change_bind] at second
  cases y with
  | ok _ =>
    obtain ⟨rfl, rfl, rfl⟩ := returns_pure.mp second
    rw [List.append_nil]
    exact .complete work
  | error cause =>
    obtain ⟨report, rest, rfl, ended⟩ := returns_windDown_bind.mp (returns_change_bind.mp second)
    rw [returns_transition_bind] at ended
    obtain ⟨rfl, rfl, rfl⟩ := returns_pure.mp ended
    exact .failed work report

/-! ### What the work leaves behind -/

theorem mem_excess {stage : String} {live target : Nat} {key : StageKey} {handle : Handle} :
    (key, handle) ∈ excess stage live target run ↔ key.stage = stage ∧
      (target ≤ key.instanceId ∧ key.instanceId < live) ∧
      run.registry.get? key = some handle := by
  obtain ⟨s, id⟩ := key
  simp only [excess, List.mem_filterMap, List.mem_range'_1, Option.map_eq_some_iff, Prod.mk.injEq,
    StageKey.mk.injEq]
  constructor
  · rintro ⟨i, bounds, h, found, ⟨rfl, rfl⟩, rfl⟩
    exact ⟨rfl, by omega, found⟩
  · rintro ⟨rfl, bounds, found⟩
    exact ⟨id, by omega, handle, found, ⟨rfl, rfl⟩, rfl⟩

theorem excess_keys {count : String → Nat} (numbered : Registry.Numbered run.registry count)
    (stage : String) (target : Nat) :
    (excess stage (count stage) target run).map (·.1) =
      (List.range' target (count stage - target)).map (StageKey.mk stage) := by
  unfold excess
  have all : ∀ id ∈ List.range' target (count stage - target),
      ∃ handle, run.registry.get? ⟨stage, id⟩ = some handle := by
    intro id mem
    rw [List.mem_range'_1] at mem
    have place : id < count stage := by omega
    exact SortedMap.mem_keys.mp ((numbered ⟨stage, id⟩).mpr place)
  generalize List.range' target (count stage - target) = ids at all
  induction ids with
  | nil => rfl
  | cons id rest ih =>
    obtain ⟨handle, found⟩ := all id List.mem_cons_self
    simp [found, ih fun i mem => all i (List.mem_cons_of_mem _ mem)]

theorem get?_remaining {count : String → Nat} (numbered : Registry.Numbered run.registry count)
    (name : String) (target : Nat) (key : StageKey) :
    (run.remaining name (count name) target).get? key =
      if key.stage = name ∧ target ≤ key.instanceId then none else run.registry.get? key := by
  rw [Run.remaining, SortedMap.get?_eraseAll, excess_keys numbered]
  obtain ⟨s, id⟩ := key
  by_cases here : s = name
  · subst here
    by_cases beyond : count s ≤ id
    · have vacant : run.registry.get? ⟨s, id⟩ = none := numbered.get?_eq_none beyond
      simp [vacant]
    · have within : (target ≤ id ∧ id < target + (count s - target)) ↔ target ≤ id := by omega
      simp [within]
  · simp [here, Ne.symm here]

/-- The instances a stage is left with: those that were and have a place, and those begun. -/
def leftWith (live target : Nat) (log : List Exchange) : Nat :=
  if live < target then live + begunBy log else target

/-- Even if the work fails, the stage stays numbered, and no other stage has a new number. -/
theorem reshaped_numbered {count : String → Nat} (numbered : Registry.Numbered run.registry count)
    {spec : StageSpec} {target : Nat} {registry : Registry Handle}
    (work : Reshaped run spec (count spec.name) target log registry x) :
    Registry.Numbered registry
      (Function.update count spec.name (leftWith (count spec.name) target log)) := by
  unfold leftWith
  cases work with
  | kept more around =>
    rw [if_pos more, around.begunBy_eq, Nat.add_zero, Function.update_eq_self]
    exact numbered
  | grown more around started =>
    rw [if_pos more, begunBy_append, around.begunBy_eq, Nat.zero_add, started.begunBy_eq]
    have keys := List.prefix_iff_eq_take.mp started.keys_prefix
    have filled := started.keys_prefix.length_le
    simp only [Opening.ofStage_keys, List.length_map, List.length_range'] at filled
    rw [Opening.ofStage_keys, ← List.map_take, List.length_map,
      List.take_range'_of_length_ge filled] at keys
    exact numbered.insertAll keys
  | shrunk fewer stopped around =>
    rw [if_neg fewer, Run.remaining, excess_keys numbered]
    exact numbered.eraseAll (Nat.le_of_not_lt fewer)

theorem leftWith_ok {spec : StageSpec} {live target : Nat} {registry : Registry Handle}
    (work : Reshaped run spec live target log registry (.ok ())) :
    leftWith live target log = target := by
  unfold leftWith
  cases work with
  | grown more around started =>
    have filled := started.ok_iff_length.mp rfl
    rw [if_pos more, begunBy_append, around.begunBy_eq, started.begunBy_eq, filled]
    simp [Opening.ofStage]
    omega
  | shrunk fewer stopped around => rw [if_neg fewer]

/-! ### Starts that are waited for -/

theorem not_awaits_repartitionAround {stage : String} {targets : List (StageKey × Handle)}
    {partitions : Nat} {options : InstanceOptions} :
    ¬ Awaits (repartitionAround stage targets partitions) run log run' (.start options) := by
  intro awaits
  rw [repartitionAround] at awaits
  rcases awaits_fanOut_bind.mp awaits with ⟨_, _, other⟩ | ⟨paused, rest, rfl, onward⟩
  · cases other
  rcases awaits_bind.mp onward with first | ⟨_, _, y, _, _, second, _⟩
  · rw [repartition, awaits_read_bind] at first
    rcases (awaits_ask_bind _).mp first with ⟨_, _, other⟩ | ⟨_, _, _, finished⟩
    · cases other
    · exact not_awaits_pure finished
  · cases y with
    | error e => exact not_awaits_pure second
    | ok _ =>
      rcases awaits_fanOut_bind.mp second with ⟨_, _, other⟩ | ⟨_, _, _, third⟩
      · cases other
      rcases awaits_fanOut_bind.mp third with ⟨_, _, other⟩ | ⟨_, _, _, finished⟩
      · cases other
      · exact not_awaits_pure finished

theorem awaits_rescale {spec : StageSpec} {live target : Nat} {options : InstanceOptions}
    (awaits : Awaits (rescale spec live target) run log run' (.start options)) :
    live < target ∧ ∃ log' counted, Filling (run.countRescale.countOpFailures counted)
      (Opening.ofStage spec target (target - live) live) log' run' (.start options) := by
  rw [rescale_eq, awaits_change_bind] at awaits
  rcases awaits_bind.mp awaits with working | ⟨_, run₁, y, log₂, _, after, _⟩
  · by_cases more : live < target
    · rw [if_pos more, increase, awaits_read_bind] at working
      rcases awaits_bind.mp working with around | ⟨log₁, run₁, y, log₂, around, filling, _⟩
      · exact absurd around not_awaits_repartitionAround
      · obtain ⟨_, rfl⟩ := returns_repartitionAround around
        cases y with
        | error e => exact absurd filling not_awaits_pure
        | ok _ => exact ⟨more, log₂, missed log₁, awaits_startInstances filling⟩
    · rw [if_neg more, decrease, awaits_read_bind, awaits_change_bind] at working
      rcases awaits_fanOut_bind.mp working with ⟨_, _, other⟩ | ⟨_, _, _, around⟩
      · cases other
      · exact absurd around not_awaits_repartitionAround
  · unfold conclude at after
    rw [awaits_change_bind] at after
    cases y with
    | ok _ => exact absurd after not_awaits_pure
    | error cause =>
      obtain ⟨resume, leads⟩ := awaits_change_bind.mp after
      cases leads with
      | next report rest => exact nomatch rest

end Operation
end FlowRuntime
