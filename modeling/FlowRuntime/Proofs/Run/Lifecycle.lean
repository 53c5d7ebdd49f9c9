import FlowRuntime.Proofs.Registry
import FlowRuntime.Proofs.Run.Course

/-!
What a course of starting, suspending, resuming or stopping a run looks like from its
first call to its last. Instances that are to be started are listed first, as
openings; a start fills them in turn up to one that fails. We verify which calls were
made, how the run then stands and what the outcome is, for all answers.
-/
namespace FlowRuntime

def Exchange.missed : Exchange → Nat
  | ⟨.fanOut _ _, report⟩ => report.failed.length
  | _ => 0

/-- A place for an instance, in a stage that is to have `total`. -/
structure Opening where
  stage : StageSpec
  total : Nat
  id : Nat

namespace Opening

def key (o : Opening) : StageKey := ⟨o.stage.name, o.id⟩

def options (o : Opening) (c : RunContext) : InstanceOptions :=
  c.instanceOptions o.stage o.id o.total

@[simp] theorem options_key (o : Opening) (c : RunContext) : (o.options c).key = o.key := rfl

def ofStage (stage : StageSpec) (total left first : Nat) : List Opening :=
  (List.range' first left).map (Opening.mk stage total)

def ofStages (stages : List StageSpec) : List Opening :=
  stages.flatMap fun s => ofStage s s.instances.toNat s.instances.toNat 0

theorem ofStages_cons (s : StageSpec) (rest : List StageSpec) :
    ofStages (s :: rest) = ofStage s s.instances.toNat s.instances.toNat 0 ++ ofStages rest := rfl

theorem ofStage_keys (stage : StageSpec) (total left first : Nat) :
    (ofStage stage total left first).map key =
      (List.range' first left).map (StageKey.mk stage.name) := by
  simp [ofStage, key]

theorem mem_ofStage {stage : StageSpec} {total left first : Nat} {o : Opening} :
    o ∈ ofStage stage total left first ↔
      ∃ id, (first ≤ id ∧ id < first + left) ∧ o = ⟨stage, total, id⟩ := by
  simp [ofStage, eq_comm]

theorem ofStage_keys_nodup (stage : StageSpec) (total left first : Nat) :
    ((ofStage stage total left first).map key).Nodup := by
  rw [ofStage_keys]
  exact Registry.places_nodup stage.name first left

theorem ofStage_vacant {ρ : Type} {r : Registry ρ} {count : String → Nat}
    (numbered : Registry.Numbered r count) (stage : StageSpec) (total left : Nat) :
    ∀ o ∈ ofStage stage total left (count stage.name), r.get? o.key = none := by
  intro o mem
  obtain ⟨id, bounds, rfl⟩ := mem_ofStage.mp mem
  exact numbered.get?_eq_none bounds.1

theorem mem_ofStages_keys {stages : List StageSpec} {key : StageKey} :
    key ∈ (ofStages stages).map Opening.key ↔
      ∃ s ∈ stages, s.name = key.stage ∧ key.instanceId < s.instances.toNat := by
  obtain ⟨name, id⟩ := key
  simp only [ofStages, List.map_flatMap, ofStage_keys, List.mem_flatMap, List.mem_map,
    List.mem_range'_1, StageKey.mk.injEq]
  constructor
  · rintro ⟨s, mem, i, bounds, rfl, rfl⟩
    exact ⟨s, mem, rfl, by omega⟩
  · rintro ⟨s, mem, rfl, lt⟩
    exact ⟨s, mem, id, by omega, rfl, rfl⟩

end Opening

/-- How far a start came: what was asked for, the instances it was given, and its outcome. -/
inductive Started (c : RunContext) :
    List Opening → List Exchange → List (StageKey × Handle) → Outcome → Prop where
  | all : Started c [] [] [] (.ok ())
  | failed (o : Opening) (rest : List Opening) (e : Failure) :
      Started c (o :: rest) [⟨.start (o.options c), .error e⟩] []
        (.error (.within (.startingInstance o.key) e))
  | next (o : Opening) (handle : Handle) {rest : List Opening} {log : List Exchange}
      {begun : List (StageKey × Handle)} {x : Outcome} (later : Started c rest log begun x) :
      Started c (o :: rest) (⟨.start (o.options c), .ok handle⟩ :: log) ((o.key, handle) :: begun) x

namespace Started
variable {c : RunContext} {openings more : List Opening} {log log' : List Exchange}
  {begun begun' : List (StageKey × Handle)} {x : Outcome}

theorem append_error {e : Failure} (started : Started c openings log begun (.error e)) :
    Started c (openings ++ more) log begun (.error e) := by
  generalize same : (Except.error e : Outcome) = y at started
  induction started with
  | all => cases same
  | failed o rest e' => exact .failed o (rest ++ more) e'
  | next o handle later ih => exact .next o handle (ih same)

theorem append_ok (started : Started c openings log begun (.ok ()))
    (rest : Started c more log' begun' x) :
    Started c (openings ++ more) (log ++ log') (begun ++ begun') x := by
  generalize same : (Except.ok () : Outcome) = y at started
  induction started with
  | all => exact rest
  | failed o left e => cases same
  | next o handle later ih => exact .next o handle (ih same)

theorem keys_prefix (started : Started c openings log begun x) :
    begun.map (·.1) <+: openings.map Opening.key := by
  induction started with
  | all => exact List.prefix_rfl
  | failed o rest e => exact List.nil_prefix
  | next o handle later ih => exact (List.prefix_cons_inj _).mpr ih

theorem keys_ok (started : Started c openings log begun (.ok ())) :
    begun.map (·.1) = openings.map Opening.key := by
  generalize same : (Except.ok () : Outcome) = y at started
  induction started with
  | all => rfl
  | failed o rest e => cases same
  | next o handle later ih => simp [ih same]

theorem mem_begun_iff (started : Started c openings log begun x) {key : StageKey}
    {handle : Handle} :
    (key, handle) ∈ begun ↔ ∃ options, options.key = key ∧ ⟨.start options, .ok handle⟩ ∈ log := by
  induction started with
  | all => simp
  | failed o rest e => simp
  | next o given later ih =>
    rw [List.mem_cons, ih]
    constructor
    · rintro (here | ⟨options, rfl, mem⟩)
      · cases here
        exact ⟨o.options c, rfl, List.mem_cons_self⟩
      · exact ⟨options, rfl, List.mem_cons_of_mem _ mem⟩
    · rintro ⟨options, rfl, mem⟩
      rcases List.mem_cons.mp mem with here | later
      · cases here
        exact .inl rfl
      · exact .inr ⟨options, rfl, later⟩

theorem only_starts (started : Started c openings log begun x) {e : Exchange} (mem : e ∈ log) :
    ∃ o ∈ openings, e.call = .start (o.options c) := by
  induction started with
  | all => cases mem
  | failed o rest f =>
    rw [List.mem_singleton.mp mem]
    exact ⟨o, List.mem_cons_self, rfl⟩
  | next o given later ih =>
    rcases List.mem_cons.mp mem with rfl | within
    · exact ⟨o, List.mem_cons_self, rfl⟩
    · obtain ⟨o', mem', same⟩ := ih within
      exact ⟨o', List.mem_cons_of_mem _ mem', same⟩

theorem begunBy_eq (started : Started c openings log begun x) : begunBy log = begun.length := by
  induction started with
  | all => rfl
  | failed o rest e => rfl
  | next o given later ih =>
    rw [← List.singleton_append, begunBy_append, ih, List.length_cons, Nat.add_comm]
    rfl

theorem ok_iff_length (started : Started c openings log begun x) :
    x = .ok () ↔ begun.length = openings.length := by
  induction started with
  | all => simp
  | failed o rest e => simp
  | next o given later ih => simpa using ih

theorem ok_iff (started : Started c openings log begun x) (nodup : (openings.map Opening.key).Nodup) :
    x = .ok () ↔ ∀ o ∈ openings, ∃ handle : Handle, ⟨.start (o.options c), .ok handle⟩ ∈ log := by
  induction started with
  | all => simp
  | failed o rest e =>
    constructor
    · intro finished
      cases finished
    · intro granted
      obtain ⟨handle, mem⟩ := granted o List.mem_cons_self
      simp at mem
  | @next o given rest log begun x later ih =>
    rw [List.map_cons, List.nodup_cons] at nodup
    rw [ih nodup.2, List.forall_mem_cons]
    constructor
    · intro granted
      refine ⟨⟨given, List.mem_cons_self⟩, fun o' mem => ?_⟩
      obtain ⟨handle, within⟩ := granted o' mem
      exact ⟨handle, List.mem_cons_of_mem _ within⟩
    · rintro ⟨_, granted⟩ o' mem
      obtain ⟨handle, within⟩ := granted o' mem
      rcases List.mem_cons.mp within with here | within
      · have same : o'.options c = o.options c := by
          injection congrArg Exchange.call here
        have key : o'.key = o.key := congrArg InstanceOptions.key same
        exact absurd (key ▸ List.mem_map_of_mem mem) nodup.1
      · exact ⟨handle, within⟩

theorem error_cause {f : Failure} (started : Started c openings log begun (.error f)) :
    ∃ o ∈ openings, ∃ e, ⟨.start (o.options c), .error e⟩ ∈ log ∧
      f = .within (.startingInstance o.key) e := by
  generalize same : (Except.error f : Outcome) = y at started
  induction started with
  | all => cases same
  | failed o rest e =>
    cases same
    exact ⟨o, List.mem_cons_self, e, List.mem_cons_self, rfl⟩
  | next o given later ih =>
    obtain ⟨o', mem, e, within, cause⟩ := ih same
    exact ⟨o', List.mem_cons_of_mem _ mem, e, List.mem_cons_of_mem _ within, cause⟩

end Started

namespace Run

def holdAll (run : Run) (begun : List (StageKey × Handle)) : Run :=
  { run with registry := run.registry.insertAll begun }

/-- As it is once it has been brought down, but for `missed` instances that did not follow. -/
def woundDown (run : Run) (missed : Nat) : Run :=
  ((run.transition .stopping none).releaseAll.countOpFailures missed).publish

end Run

namespace Operation
variable {run run' : Run} {log : List Exchange} {x : Outcome}

theorem returns_startInstances {stage : StageSpec} {total left first : Nat}
    (returned : Returns (startInstances stage total left first) run log run' x) :
    ∃ begun, Started run.context (Opening.ofStage stage total left first) log begun x ∧
      run' = run.holdAll begun := by
  induction left generalizing run log first with
  | zero =>
    obtain ⟨rfl, rfl, rfl⟩ := returns_pure.mp returned
    exact ⟨[], .all, rfl⟩
  | succ left ih =>
    rw [startInstances, returns_read_bind] at returned
    obtain ⟨answer, rest, rfl, onward⟩ := (returns_ask_bind _).mp returned
    cases answer with
    | error e =>
      obtain ⟨rfl, rfl, rfl⟩ := returns_pure.mp onward
      exact ⟨[], .failed ⟨stage, total, first⟩ _ e, rfl⟩
    | ok handle =>
      obtain ⟨begun, started, rfl⟩ := ih (returns_change_bind.mp onward)
      exact ⟨_, .next ⟨stage, total, first⟩ handle started, rfl⟩

theorem returns_startStages {stages : List StageSpec}
    (returned : Returns (startStages stages) run log run' x) :
    ∃ begun, Started run.context (Opening.ofStages stages) log begun x ∧
      run' = run.holdAll begun := by
  induction stages generalizing run log with
  | nil =>
    obtain ⟨rfl, rfl, rfl⟩ := returns_pure.mp returned
    exact ⟨[], .all, rfl⟩
  | cons stage rest ih =>
    obtain ⟨log₁, run₁, y, log₂, first, second, rfl⟩ := returns_bind.mp returned
    obtain ⟨begun, started, rfl⟩ := returns_startInstances first
    cases y with
    | error e =>
      obtain ⟨rfl, rfl, rfl⟩ := returns_pure.mp second
      exact ⟨begun, by simpa [Opening.ofStages_cons] using started.append_error, rfl⟩
    | ok _ =>
      obtain ⟨later, others, rfl⟩ := ih second
      exact ⟨begun ++ later, started.append_ok others, by simp [Run.holdAll, SortedMap.insertAll]⟩

/-! ### A start that is waited for -/

/-- An opening waits to be filled, and those before it are. -/
def Filling (run : Run) (openings : List Opening) (log : List Exchange) (run' : Run)
    (call : Call) : Prop :=
  ∃ filled o left begun, openings = filled ++ o :: left ∧
    Started run.context filled log begun (.ok ()) ∧ run' = run.holdAll begun ∧
    call = .start (o.options run.context)

theorem Filling.get?_eq_none {openings : List Opening} {options : InstanceOptions}
    (filling : Filling run openings log run' (.start options))
    (nodup : (openings.map Opening.key).Nodup)
    (vacant : ∀ o ∈ openings, run.registry.get? o.key = none) :
    run'.registry.get? options.key = none := by
  obtain ⟨filled, o, left, begun, rfl, started, rfl, same⟩ := filling
  cases same
  have absent : o.key ∉ begun.map (·.1) := by
    rw [started.keys_ok]
    intro mem
    rw [List.map_append, List.map_cons] at nodup
    exact (List.nodup_append.mp nodup).2.2 _ mem _ List.mem_cons_self rfl
  change (run.registry.insertAll begun).get? o.key = none
  rw [SortedMap.get?_insertAll_of_not_mem _ absent]
  exact vacant o (by simp)

theorem awaits_startInstances {stage : StageSpec} {total left first : Nat} {call : Call}
    (awaits : Awaits (startInstances stage total left first) run log run' call) :
    Filling run (Opening.ofStage stage total left first) log run' call := by
  induction left generalizing run log first with
  | zero => exact absurd awaits not_awaits_pure
  | succ left ih =>
    rw [startInstances, awaits_read_bind] at awaits
    rcases (awaits_ask_bind _).mp awaits with ⟨rfl, rfl, rfl⟩ | ⟨answer, rest, rfl, onward⟩
    · exact ⟨[], ⟨stage, total, first⟩, _, [], rfl, .all, rfl, rfl⟩
    · cases answer with
      | error e => exact absurd onward not_awaits_pure
      | ok handle =>
        obtain ⟨filled, o, others, begun, split, started, rfl, rfl⟩ :=
          ih (awaits_change_bind.mp onward)
        refine ⟨⟨stage, total, first⟩ :: filled, o, others, _, ?_,
          .next ⟨stage, total, first⟩ handle started, rfl, rfl⟩
        rw [List.cons_append, ← split]
        rfl

theorem awaits_startStages {stages : List StageSpec} {call : Call}
    (awaits : Awaits (startStages stages) run log run' call) :
    Filling run (Opening.ofStages stages) log run' call := by
  induction stages generalizing run log with
  | nil => exact absurd awaits not_awaits_pure
  | cons stage rest ih =>
    rcases awaits_bind.mp awaits with within | ⟨log₁, run₁, y, log₂, before, onward, rfl⟩
    · obtain ⟨filled, o, left, begun, split, started, rfl, rfl⟩ := awaits_startInstances within
      refine ⟨filled, o, left ++ Opening.ofStages rest, begun, ?_, started, rfl, rfl⟩
      rw [Opening.ofStages_cons, split, List.append_assoc, List.cons_append]
    · obtain ⟨begun, started, rfl⟩ := returns_startInstances before
      cases y with
      | error e => exact absurd onward not_awaits_pure
      | ok _ =>
        obtain ⟨filled, o, left, later, split, others, rfl, rfl⟩ := ih onward
        refine ⟨_ ++ filled, o, left, begun ++ later, ?_, started.append_ok others, ?_, rfl⟩
        · rw [Opening.ofStages_cons, split, List.append_assoc]
        · simp [Run.holdAll, SortedMap.insertAll]

/-! ### A whole start -/

/-- The courses of a start: queues could not be bound, a stage could not be filled, or all went
well. -/
inductive Startup (run : Run) : List Exchange → Run → Outcome → Prop where
  | unbound (e : Failure) :
      Startup run [⟨.bind run.context.consumerGroups, .error e⟩] run
        (.error (.within (.bindingQueues run.context.run) e))
  | withdrawn {log : List Exchange} {begun : List (StageKey × Handle)} {e : Failure}
      (started : Started run.context (Opening.ofStages run.context.flow.stages) log begun (.error e))
      (report : Report StageKey) :
      Startup run
        (⟨.bind run.context.consumerGroups, .ok ()⟩ :: log ++
          [⟨.fanOut .stop (Registry.all (run.registry.insertAll begun)), report⟩])
        (run.releaseAll.countOpFailures report.failed.length) (.error (.startupFailed e))
  | complete {log : List Exchange} {begun : List (StageKey × Handle)}
      (started : Started run.context (Opening.ofStages run.context.flow.stages) log begun (.ok ())) :
      Startup run (⟨.bind run.context.consumerGroups, .ok ()⟩ :: log)
        ((run.holdAll begun).publish.transition .alive none) (.ok ())

theorem returns_start (returned : Returns start run log run' x) : Startup run log run' x := by
  obtain ⟨log₁, run₁, y, log₂, first, second, rfl⟩ := returns_bind.mp returned
  rw [bindQueues, returns_read_bind] at first
  obtain ⟨answer, rest, rfl, bound⟩ := (returns_ask_bind _).mp first
  obtain ⟨rfl, rfl, rfl⟩ := returns_pure.mp bound
  cases answer with
  | error e =>
    obtain ⟨rfl, rfl, rfl⟩ := returns_pure.mp second
    exact .unbound e
  | ok _ =>
    obtain ⟨log₃, run₃, z, log₄, filled, third, rfl⟩ :=
      returns_bind.mp (returns_read_bind.mp second)
    obtain ⟨begun, started, rfl⟩ := returns_startStages filled
    cases z with
    | error e =>
      obtain ⟨log₅, run₅, _, log₆, stopping, fourth, rfl⟩ := returns_bind.mp third
      obtain ⟨report, rest, rfl, reported⟩ := (returns_ask_bind _).mp stopping
      cases reported
      obtain ⟨rfl, rfl, rfl⟩ := returns_pure.mp fourth
      simpa [Run.holdAll, Run.releaseAll] using Startup.withdrawn started report
    | ok _ =>
      obtain ⟨rfl, rfl, rfl⟩ := returns_pure.mp third
      simpa using Startup.complete started

theorem awaits_start {options : InstanceOptions} (awaits : Awaits start run log run' (.start options)) :
    ∃ log', Filling run (Opening.ofStages run.context.flow.stages) log' run' (.start options) := by
  rcases awaits_bind.mp awaits with binding | ⟨log₁, run₁, y, log₂, before, onward, rfl⟩
  · rw [bindQueues, awaits_read_bind] at binding
    rcases (awaits_ask_bind _).mp binding with ⟨_, _, other⟩ | ⟨_, _, _, finished⟩
    · cases other
    · exact absurd finished not_awaits_pure
  · rw [bindQueues, returns_read_bind] at before
    obtain ⟨answer, rest, rfl, bound⟩ := (returns_ask_bind _).mp before
    obtain ⟨rfl, rfl, rfl⟩ := returns_pure.mp bound
    cases answer with
    | error e => exact absurd onward not_awaits_pure
    | ok _ =>
      rcases awaits_bind.mp (awaits_read_bind.mp onward) with
        filling | ⟨log₃, run₃, z, log₄, _, withdrawing, rfl⟩
      · exact ⟨log₂, awaits_startStages filling⟩
      · cases z with
        | error e =>
          rcases awaits_bind.mp withdrawing with stopping | ⟨_, _, _, _, _, finished, _⟩
          · rcases (awaits_ask_bind _).mp stopping with ⟨_, _, other⟩ | ⟨_, _, _, finished⟩
            · cases other
            · exact absurd finished not_awaits_pure
          · exact absurd finished not_awaits_pure
        | ok _ => exact absurd withdrawing not_awaits_pure

/-! ### All instances at once -/

def turnAll (through target : RunState) (op : InstanceOp) : Operation Outcome := do
  transition through none
  fanOut op (← read (·.registry.all))
  transition target none
  pure (.ok ())

theorem suspend_eq : suspend = requiring .suspend [.alive] (turnAll .suspending .suspended .suspend) :=
  rfl

theorem resume_eq : resume = requiring .resume [.suspended] (turnAll .resuming .alive .resume) :=
  rfl

theorem returns_turnAll {through target : RunState} {op : InstanceOp}
    (returned : Returns (turnAll through target op) run log run' x) :
    ∃ report, log = [⟨.fanOut op run.registry.all, report⟩] ∧ x = .ok () ∧
      run' = ((run.transition through none).countOpFailures report.failed.length).transition
        target none := by
  rw [turnAll, returns_transition_bind, returns_read_bind] at returned
  obtain ⟨report, rest, rfl, onward⟩ := returns_fanOut_bind.mp returned
  obtain ⟨rfl, rfl, rfl⟩ := returns_pure.mp onward
  exact ⟨report, rfl, rfl, rfl⟩

theorem returns_windDown_bind {α : Type} {next : Unit → Operation α} {y : α} :
    Returns (windDown >>= next) run log run' y ↔ ∃ (report : Report StageKey) (rest : List Exchange),
      log = ⟨.fanOut .stop run.registry.all, report⟩ :: rest ∧
      Returns (next ()) (run.woundDown report.failed.length) rest run' y := by
  constructor
  · intro returned
    cases returned with
    | next report rest => exact ⟨report, _, rfl, rest⟩
  · rintro ⟨report, rest, rfl, returned⟩
    exact @Activity.Leads.next _ _ (.fanOut .stop run.registry.all) _ report _ _ returned

theorem returns_stop (returned : Returns stop run log run' x) :
    (run.state ∈ [.starting, .alive, .suspended] ∧ ∃ report : Report StageKey,
      log = [⟨.fanOut .stop run.registry.all, report⟩] ∧ x = .ok () ∧
      run' = (run.woundDown report.failed.length).transition .stopped none) ∨
    (log = [] ∧ run' = run) := by
  unfold stop at returned
  by_cases finished : run.state = .stopped
  · simp only [Returns, finished, if_true] at returned
    obtain ⟨rfl, ended⟩ := Activity.leads_done_iff.mp returned
    cases ended
    exact .inr ⟨rfl, rfl⟩
  · simp only [Returns, finished, if_false] at returned
    rcases returns_requiring.mp returned with ⟨going, went⟩ | ⟨_, rfl, rfl, _⟩
    · obtain ⟨report, rest, rfl, onward⟩ := returns_windDown_bind.mp went
      obtain ⟨rfl, rfl, rfl⟩ := returns_pure.mp onward
      exact .inl ⟨going, report, rfl, rfl, rfl⟩
    · exact .inr ⟨rfl, rfl⟩

end Operation
end FlowRuntime
