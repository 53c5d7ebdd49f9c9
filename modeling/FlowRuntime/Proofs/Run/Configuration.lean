import FlowRuntime.Proofs.Program.Validity
import FlowRuntime.Proofs.Run.Startup

/-!
What instances are configured with. Instances are started when a run starts and when a stage
grows; in both cases the options are those of the place, in a stage of so many instances. We verify
that a stage which grows is filled as if the flow had declared the greater number from the
beginning, whatever happened to the run before, and that an instance is told nothing of the run's
history: besides its number and the count of its stage, all it gets was declared or given at the start.
-/
namespace FlowRuntime
open Operation

/-- What an instance of the stage is told in a run; reserved arguments are its own. -/
structure Configured (c : RunContext) (spec : StageSpec) (o : InstanceOptions) : Prop where
  program : o.program = c.run.program
  runId : o.runId = c.options.runId
  stage : o.key.stage = spec.name
  systemArgs : ∀ k, o.systemArgs.get? k =
    if k = "instances" then some (toString o.instances)
    else if k = "instanceId" then some (toString o.key.instanceId)
    else if k = "runId" then some c.options.runId.text
    else c.options.systemArgs.get? k
  userArgs : o.userArgs = Args.resolve spec.name spec.args c.options.userArgs

theorem RunContext.configured (c : RunContext) (spec : StageSpec) (id count : Nat) :
    Configured c spec (c.instanceOptions spec id count) where
  program := rfl
  runId := rfl
  stage := rfl
  systemArgs k := by
    simp only [instanceOptions, InstanceOptions.forStage, InstanceOptions.create,
      SortedMap.get?_insert, InstanceOptions.instancesArg, InstanceOptions.instanceIdArg,
      InstanceOptions.runIdArg]
  userArgs := rfl

def Call.options? : Call → Option InstanceOptions
  | .start options => some options
  | _ => none

def startsOf (log : List Exchange) : List InstanceOptions := log.filterMap (·.call.options?)

theorem startsOf_append (log log' : List Exchange) :
    startsOf (log ++ log') = startsOf log ++ startsOf log' := List.filterMap_append

def Configures (c : RunContext) (log : List Exchange) : Prop :=
  ∀ o ∈ startsOf log, ∃ spec ∈ c.flow.stages, Configured c spec o

section
variable {c : RunContext} {log log' : List Exchange} {run run' : Run} {x : Outcome}

theorem mem_startsOf {o : InstanceOptions} :
    o ∈ startsOf log ↔ ∃ e ∈ log, e.call = .start o := by
  have asked (call : Call) : call.options? = some o ↔ call = .start o := by
    cases call <;> simp [Call.options?]
  simp only [startsOf, List.mem_filterMap, asked]

/-! ### What a run asks for -/

theorem Started.startsOf_prefix {openings : List Opening} {begun : List (StageKey × Handle)}
    (started : Started c openings log begun x) : startsOf log <+: openings.map (·.options c) := by
  induction started with
  | all => exact List.prefix_rfl
  | failed o rest e => exact (List.prefix_cons_inj _).mpr List.nil_prefix
  | next o handle later ih => exact (List.prefix_cons_inj _).mpr ih

theorem Started.startsOf_ok {openings : List Opening} {begun : List (StageKey × Handle)}
    (started : Started c openings log begun (.ok ())) :
    startsOf log = openings.map (·.options c) := by
  generalize same : (Except.ok () : Outcome) = x at started
  induction started with
  | all => rfl
  | failed o rest e => cases same
  | next o handle later ih => exact congrArg (o.options c :: ·) (ih same)

theorem Regrouped.startsOf_eq {stage : String} {targets : List (StageKey × Handle)} {count : Nat}
    (around : Regrouped c stage targets count log x) : startsOf log = [] := by
  cases around <;> rfl

theorem startsOf_start (returned : Returns start (.starting c) log run x) :
    startsOf log <+: c.starts ∧ (x = .ok () → startsOf log = c.starts) := by
  have startup := returns_start returned
  generalize begins : Run.starting c = first at startup
  rw [c.starts_eq]
  cases startup with
  | unbound e => exact ⟨List.nil_prefix, by simp⟩
  | @withdrawn log begun e started report =>
    cases begins
    -- What was started is told to stop, which asks for nobody new.
    have asked : startsOf (⟨.bind c.consumerGroups, .ok ()⟩ :: log ++
        [⟨.fanOut .stop (Registry.all (SortedMap.empty.insertAll begun)), report⟩]) =
        startsOf log := by
      rw [startsOf_append]
      exact List.append_nil _
    exact ⟨asked ▸ started.startsOf_prefix, by simp⟩
  | complete started =>
    cases begins
    exact ⟨started.startsOf_prefix, fun _ => started.startsOf_ok⟩

theorem Reshaped.startsOf_prefix {spec : StageSpec} {live target : Nat} {registry : Registry Handle}
    (work : Reshaped run spec live target log registry x) :
    startsOf log <+: (Opening.ofStage spec target (target - live) live).map (·.options run.context) := by
  cases work with
  | kept more around =>
    rw [around.startsOf_eq]
    exact List.nil_prefix
  | grown more around started =>
    rw [startsOf_append, around.startsOf_eq]
    exact started.startsOf_prefix
  | @shrunk fewer log x stopped around =>
    have none : startsOf (⟨.fanOut .stop (excess spec.name live target run), stopped⟩ :: log) = [] :=
      around.startsOf_eq
    rw [none]
    exact List.nil_prefix

theorem Reshaped.startsOf_ok {spec : StageSpec} {live target : Nat} {registry : Registry Handle}
    (more : live < target) (work : Reshaped run spec live target log registry (.ok ())) :
    startsOf log = (Opening.ofStage spec target (target - live) live).map (·.options run.context) := by
  cases work with
  | grown _ around started =>
    rw [startsOf_append, around.startsOf_eq]
    exact started.startsOf_ok
  | shrunk fewer => exact absurd more fewer

theorem Carried.configures (context : run.context = c) (carried : Carried run log run') :
    Configures c log := by
  cases carried with
  | idle => simp [Configures, startsOf]
  | suspended alive report | resumed suspended report | stopped going report =>
    simp [Configures, startsOf, Call.options?]
  | @rescaled stage target spec due _ _ x course =>
    subst context
    have within {log : List Exchange} {registry : Registry Handle} {x : Outcome}
        (work : Reshaped run spec (Registry.liveCount run.registry stage) target log registry x) :
        Configures run.context log := by
      intro o mem
      obtain ⟨opening, listed, rfl⟩ := List.mem_map.mp (work.startsOf_prefix.subset mem)
      obtain ⟨id, _, rfl⟩ := Opening.mem_ofStage.mp listed
      exact ⟨spec, FlowSpec.mem_of_stage? due.found, run.context.configured spec id target⟩
    cases course with
    | complete work => exact within work
    | failed work report =>
      intro o mem
      rw [startsOf_append, List.mem_append] at mem
      exact within work o (mem.resolve_right (by simp [startsOf, Call.options?]))

theorem configures_start (returned : Returns start (.starting c) log run x) : Configures c log := by
  intro o mem
  obtain ⟨spec, declared, listed⟩ := List.mem_flatMap.mp ((startsOf_start returned).1.subset mem)
  obtain ⟨id, _, rfl⟩ := List.mem_map.mp listed
  exact ⟨spec, declared, c.configured spec id _⟩

theorem Exchanged.configures (accepted : c.flow.Accepted) (ran : Exchanged c log) :
    Configures c log := by
  have each {log : List Exchange} (configures : Configures c log) :
      ∀ e ∈ log, ∀ o, e.call = .start o → ∃ spec ∈ c.flow.stages, Configured c spec o :=
    fun e mem o same => configures o (mem_startsOf.mpr ⟨e, mem, same⟩)
  intro o mem
  obtain ⟨e, within, same⟩ := mem_startsOf.mp mem
  exact ran.forall_exchanged accepted (fun returned => each (configures_start returned))
    (fun context carried => each (carried.configures context)) e within o same

end

/-! ### The same flow with another count -/

def StageSpec.redeclared (s : StageSpec) (stage : String) (count : UInt32) : StageSpec :=
  if s.name = stage then { s with instances := count } else s

def FlowSpec.redeclared (f : FlowSpec) (stage : String) (count : UInt32) : FlowSpec :=
  { f with stages := f.stages.map (·.redeclared stage count) }

/-- The program whose flow declares so many instances of the stage, and is else the same. -/
def Program.redeclared (p : Program) (stage : String) (count : UInt32) : Program :=
  { p with application.flows := p.application.flows.map fun f =>
      if f.name = p.id.name then f.redeclared stage count else f }

def RunContext.redeclared (c : RunContext) (stage : String) (count : UInt32) : RunContext :=
  { c with flow := c.flow.redeclared stage count }

section
variable {stage : String} {count : UInt32}

theorem StageSpec.redeclared_name (s : StageSpec) : (s.redeclared stage count).name = s.name := by
  unfold redeclared
  split <;> rfl

theorem StageSpec.redeclared_args (s : StageSpec) : (s.redeclared stage count).args = s.args := by
  unfold redeclared
  split <;> rfl

theorem FlowSpec.redeclared_stageNames (f : FlowSpec) :
    (f.redeclared stage count).stageNames = f.stageNames := by
  simp [stageNames, redeclared, StageSpec.redeclared_name]

theorem FlowSpec.WellFormed.redeclared {f : FlowSpec} (formed : f.WellFormed)
    (some_instances : count ≠ 0) : (f.redeclared stage count).WellFormed where
  some_stage := by simpa [FlowSpec.redeclared] using formed.some_stage
  proper := by
    have names : (f.redeclared stage count).stages.map (·.name) = f.stageNames :=
      f.redeclared_stageNames
    refine ⟨?_, names ▸ formed.proper.distinct, ?_⟩
    · intro s mem
      obtain ⟨s, declared, rfl⟩ := List.mem_map.mp mem
      rw [s.redeclared_name]
      exact formed.proper.named s declared
    · intro s mem
      obtain ⟨s, declared, rfl⟩ := List.mem_map.mp mem
      unfold StageSpec.redeclared
      split
      · exact some_instances
      · exact formed.proper.busy s declared
  linked := by
    rw [redeclared_stageNames]
    exact formed.linked

theorem Program.redeclared_flow? {p : Program} {f : FlowSpec}
    (declared : p.application.flow? p.id.name = some f) :
    (p.redeclared stage count).application.flow? p.id.name = some (f.redeclared stage count) := by
  have named : f.name = p.id.name := by simpa using List.find?_some declared
  have names (f : FlowSpec) :
      (if f.name = p.id.name then f.redeclared stage count else f).name = f.name := by
    split <;> rfl
  unfold ApplicationSpec.flow? redeclared at *
  simp only [List.find?_map, Function.comp_def, names, declared, Option.map_some, named, if_true]

theorem RunContext.redeclared_made {program : Program} {options : RunOptions} {c : RunContext}
    (made : RunContext.ofProgram program options = .ok c) (some_instances : count ≠ 0) :
    RunContext.ofProgram (program.redeclared stage count) options = .ok (c.redeclared stage count) := by
  obtain ⟨flow, startable, rfl⟩ := RunContext.ofProgram_ok_iff.mp made
  have formed := FlowSpec.validate_ok_iff.mp startable.valid
  exact RunContext.ofProgram_ok_iff.mpr ⟨flow.redeclared stage count,
    ⟨startable.isFlow, Program.redeclared_flow? startable.declared,
      FlowSpec.validate_ok_iff.mpr (formed.redeclared some_instances)⟩, rfl⟩

theorem Configures.of_redeclared {c : RunContext} {log : List Exchange}
    (configures : Configures (c.redeclared stage count) log) : Configures c log := by
  intro o mem
  obtain ⟨spec, within, told⟩ := configures o mem
  obtain ⟨s, declared, rfl⟩ := List.mem_map.mp within
  refine ⟨s, declared, told.program, told.runId, ?_, told.systemArgs, ?_⟩
  · rw [told.stage, s.redeclared_name]
  · rw [told.userArgs, s.redeclared_name, s.redeclared_args]
    rfl

end

/-! ### Growing and starting anew -/

section
variable {c : RunContext} {spec : StageSpec} {count : UInt32} {live : Nat}

theorem flatMap_eq_of_only {β : Type} {stages : List StageSpec} {f : StageSpec → List β}
    (distinct : (stages.map (·.name)).Nodup) (mem : spec ∈ stages)
    (others : ∀ s ∈ stages, s.name ≠ spec.name → f s = []) : stages.flatMap f = f spec := by
  induction stages with
  | nil => cases mem
  | cons head rest ih =>
    rw [List.map_cons, List.nodup_cons] at distinct
    obtain ⟨here, later⟩ := List.forall_mem_cons.mp others
    rw [List.flatMap_cons]
    rcases List.mem_cons.mp mem with rfl | within
    · have none : rest.flatMap f = [] := by
        rw [List.flatMap_eq_nil_iff]
        intro s mem'
        apply later s mem'
        intro same
        exact distinct.1 (same ▸ List.mem_map_of_mem mem')
      rw [none, List.append_nil]
    · have apart : head.name ≠ spec.name := by
        intro same
        exact distinct.1 (same ▸ List.mem_map_of_mem within)
      rw [here apart, ih distinct.2 within later, List.nil_append]

theorem filter_range_of {kept : Nat → Bool} (from_live : ∀ id, kept id ↔ live ≤ id) (total : Nat) :
    (List.range total).filter kept = List.range' live (total - live) := by
  induction total with
  | zero => simp
  | succ total ih =>
    rw [List.range_succ, List.filter_append, ih]
    by_cases within : live ≤ total
    · have left : total + 1 - live = (total - live) + 1 := by omega
      have last : live + (total - live) = total := by omega
      simp [(from_live total).mpr within, left, List.range'_concat, last]
    · have none : total - live = 0 ∧ total + 1 - live = 0 := by omega
      simp [mt (from_live total).mp within, none.1, none.2]

def StageKey.isBeyond (stage : String) (live : Nat) (key : StageKey) : Bool :=
  key.stage = stage ∧ live ≤ key.instanceId

@[simp] theorem StageKey.isBeyond_iff {stage : String} {key : StageKey} :
    key.isBeyond stage live ↔ key.stage = stage ∧ live ≤ key.instanceId := decide_eq_true_iff

@[simp] theorem RunContext.instanceOptions_key (c : RunContext) (s : StageSpec) (id total : Nat) :
    (c.instanceOptions s id total).key = ⟨s.name, id⟩ := rfl

theorem RunContext.starts_redeclared (count : UInt32) (distinct : c.flow.stageNames.Nodup)
    (declared : spec ∈ c.flow.stages) (live : Nat) :
    (c.redeclared spec.name count).starts.filter (·.key.isBeyond spec.name live) =
      (List.range' live (count.toNat - live)).map fun id => c.instanceOptions spec id count.toNat := by
  have stages : (c.redeclared spec.name count).flow.stages =
      c.flow.stages.map (·.redeclared spec.name count) := rfl
  rw [starts, stages, List.flatMap_map, List.filter_flatMap, flatMap_eq_of_only distinct declared]
  · have here : spec.redeclared spec.name count = { spec with instances := count } := if_pos rfl
    rw [here, List.filter_map, filter_range_of]
    · rfl
    · simp
  · intro s _ apart
    rw [List.filter_map, List.map_eq_nil_iff, List.filter_eq_nil_iff]
    intro id _
    simp [StageSpec.redeclared_name, apart]

/-- What grants a call, or reports on nobody. -/
def Activity.consent : (call : Call) → call.Answer
  | .bind _ => .ok ()
  | .repartition _ => .ok ()
  | .start _ => .ok (0 : Handle)
  | .fanOut _ _ => ⟨[], []⟩

theorem exists_started (c : RunContext) :
    ∃ log run, Returns start (.starting c) log run (.ok ()) := by
  obtain ⟨log, run, x, returned, granted⟩ := (start (.starting c)).exists_end Activity.consent
  refine ⟨log, run, ?_⟩
  cases x with
  | ok _ => exact returned
  | error f =>
    have startup : Startup (.starting c) log run (.error f) := returns_start returned
    cases startup with
    | unbound e => cases granted _ List.mem_cons_self
    | @withdrawn log begun f started report =>
      obtain ⟨past, o, rest, e, _, _, _, _, refused, _⟩ := started.cut
      cases granted _ (List.mem_append_left _ (List.mem_cons_of_mem _ refused))

/-- What was exchanged when a stage grew, beside any start of a flow that declares the greater number. -/
structure GrownAlike (c c' : RunContext) (spec : StageSpec) (live target : Nat)
    (log : List Exchange) : Prop where
  asked : startsOf log =
    (List.range' live (target - live)).map fun id => c.instanceOptions spec id target
  startable : ∃ log' run', Returns start (.starting c') log' run' (.ok ())
  alike : ∀ log' run', Returns start (.starting c') log' run' (.ok ()) →
    (startsOf log').filter (·.key.isBeyond spec.name live) = startsOf log
  ahead : ∀ log' run' x, Returns start (.starting c') log' run' x →
    (startsOf log').filter (·.key.isBeyond spec.name live) <+: startsOf log

end

section
variable {c : RunContext} {spec : StageSpec} {log : List Exchange} {run run' : Run}

theorem alive_of_changed {stage : String} {target : Nat}
    (returned : Returns (changeInstances stage target) run log run' (.ok ())) :
    run.state = .alive := by
  rcases returns_requiring.mp returned with ⟨allowed, _⟩ | ⟨_, _, _, refused⟩
  · exact List.mem_singleton.mp allowed
  · cases refused

theorem startsOf_grown {target : Nat} (context : run.context = c)
    (due : Due run spec.name target spec) (more : Registry.liveCount run.registry spec.name < target)
    (returned : Returns (changeInstances spec.name target) run log run' (.ok ())) :
    startsOf log = (List.range' (Registry.liveCount run.registry spec.name)
      (target - Registry.liveCount run.registry spec.name)).map
        fun id => c.instanceOptions spec id target := by
  subst context
  rw [Returns, changeInstances_due due] at returned
  have course := returns_rescale returned
  generalize same : (Except.ok () : Outcome) = x at course
  cases course with
  | failed => cases same
  | complete work =>
    rw [work.startsOf_ok more, Opening.ofStage, List.map_map]
    rfl

/-- Whatever happened to a run before, what a stage grows by is what a run of the same program, but
with the greater number declared, asks for at those places when it starts. In both runs, whatever
happens to them, all that is asked for is configured for its place as the flow declares. -/
theorem growth_like_start {program : Program} {options : RunOptions} {before : List Exchange}
    {target : UInt32} (made : RunContext.ofProgram program options = .ok c)
    (reached : Reached c before run) (declared : spec ∈ c.flow.stages)
    (more : Registry.liveCount run.registry spec.name < target.toNat)
    (returned : Returns (changeInstances spec.name target.toNat) run log run' (.ok ())) :
    ∃ c', RunContext.ofProgram (program.redeclared spec.name target) options = .ok c' ∧
      GrownAlike c c' spec (Registry.liveCount run.registry spec.name) target.toNat log ∧
      Configures c (before ++ log) ∧ ∀ log', Exchanged c' log' → Configures c log' := by
  have accepted := RunContext.accepted_of_ofProgram made
  have some_instances : 1 ≤ target.toNat := by omega
  have made' : RunContext.ofProgram (program.redeclared spec.name target) options =
      .ok (c.redeclared spec.name target) := by
    apply RunContext.redeclared_made made
    rintro rfl
    exact absurd some_instances (by decide)
  -- What the stage has is less than what it is to have, so there was work to do, whatever came before.
  have due := reached.due accepted (alive_of_changed returned) declared some_instances
    (Nat.ne_of_gt more)
  have grown := startsOf_grown (sound_of_accepted accepted reached).context due more returned
  have fresh := RunContext.starts_redeclared target accepted.names_nodup declared
    (Registry.liveCount run.registry spec.name)
  refine ⟨_, made', ⟨grown, exists_started _, ?_, ?_⟩, ?_, ?_⟩
  · intro log' run' started
    rw [(startsOf_start started).2 rfl, fresh, grown]
  · intro log' run' x started
    rw [grown, ← fresh]
    exact (startsOf_start started).1.filter _
  · have leads : ((RunRequest.changeInstances spec.name target.toNat).operation run).Leads log
        (.done run' (.outcome (.ok ()))) :=
      Activity.Leads.bind returned fun run x => .done run (RunAnswer.outcome x)
    exact (Exchanged.busy reached leads).configures accepted
  · intro log' ran
    exact (ran.configures (RunContext.accepted_of_ofProgram made')).of_redeclared

theorem lone_grown_alike :
    ∃ c', RunContext.ofProgram (loneProgram.redeclared "stage" 2) loneOptions = .ok c' ∧
      GrownAlike loneContext c' loneStage 1 2 loneGrowth ∧
      Configures loneContext (loneLog ++ loneGrowth) ∧
      ∀ log', Exchanged c' log' → Configures loneContext log' :=
  growth_like_start lone_made lone_reached List.mem_cons_self (by decide) lone_grown

end

end FlowRuntime
