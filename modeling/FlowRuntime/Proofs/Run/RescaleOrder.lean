import FlowRuntime.Proofs.Rehearsal.Solo
import FlowRuntime.Proofs.Run.Reached

/-!
The order in which a rescale makes its calls. A protocol is a list of phases: a fan-out is
one phase, and so is every single call. Which phases there are depends on nothing but
whether the repartition was granted and on how many starts were. We verify that what a
rescale has called for at any time are the first phases of the protocol, each of them
but the last one answered, and all of them once it has returned.
-/
namespace FlowRuntime
open Operation Rehearsal

def requests (op : InstanceOp) (stage : String) (ids : List Nat) : List LoggedCall :=
  ids.map fun id => .request op ⟨stage, id⟩

def inOrder (keys : List StageKey) : List StageKey :=
  (SortedMap.ofList (keys.map fun k => (k, ()))).keys

/-- Told to stop at the end: all others, and those of the stage up to a number. -/
def withdrawal (run : Run) (stage : String) (left : Nat) : List LoggedCall :=
  (inOrder (run.registry.keys.filter (·.stage ≠ stage) ++
    (List.range left).map (StageKey.mk stage))).map (.request .stop)

def regrouping (c : RunContext) (stage : String) (ids : List Nat) (target : Nat)
    (repartitioned : Bool) : List (List LoggedCall) :=
  [requests .suspend stage ids, [.repartition (c.consumerGroup stage target)]] ++
    if repartitioned then [requests (.command target) stage ids, requests .resume stage ids] else []

/-- Up to the first start that is not granted. -/
def starting (c : RunContext) (spec : StageSpec) (live target begun : Nat) :
    List (List LoggedCall) :=
  (List.range' live (min (begun + 1) (target - live))).map fun id =>
    [.start (c.instanceOptions spec id target)]

def protocol (c : RunContext) (run : Run) (spec : StageSpec) (target : Nat) (repartitioned : Bool)
    (begun : Nat) : List (List LoggedCall) :=
  let live := Registry.liveCount run.registry spec.name
  if live < target then
    regrouping c spec.name (List.range live) target repartitioned ++
      (if repartitioned then starting c spec live target begun else []) ++
      if repartitioned ∧ begun = target - live then []
      else [withdrawal run spec.name (live + begun)]
  else
    requests .stop spec.name (List.range' target (live - target)) ::
      regrouping c spec.name (List.range target) target repartitioned ++
      if repartitioned then [] else [withdrawal run spec.name target]

section
variable {c : RunContext} {log : List Exchange} {x : Outcome}

theorem Regrouped.phases {r : Registry Handle} {count : String → Nat}
    (numbered : Registry.Numbered r count) {stage : String} {target : Nat}
    (around : Regrouped c stage (Registry.stage r stage) target log x) :
    log.map (·.call.logged) =
      regrouping c stage (List.range (count stage)) target (repartitioned log) := by
  have all (op : InstanceOp) : (Registry.stage r stage).map (fun t => LoggedCall.request op t.1) =
      requests op stage (List.range (count stage)) := by
    have keys := congrArg (List.map (LoggedCall.request op)) (numbered.stage_keys stage)
    simpa [requests, Function.comp_def] using keys
  cases around <;>
    simp [regrouping, all, repartitioned, Exchange.isGranted, Call.logged]

theorem isOk_iff : x.isOk ↔ x = .ok () := by
  cases x <;> simp [Except.isOk, Except.toBool]

theorem Regrouped.ok_iff_repartitioned {stage : String} {targets : List (StageKey × Handle)}
    {target : Nat} (around : Regrouped c stage targets target log x) :
    x = .ok () ↔ repartitioned log = true := by
  cases around <;> simp [repartitioned, Exchange.isGranted]

theorem Started.phases {openings : List Opening} {begun : List (StageKey × Handle)}
    (started : Started c openings log begun x) :
    log.map (·.call.logged) =
      (openings.take (begunBy log + 1)).map fun o => [LoggedCall.start (o.options c)] := by
  rw [started.begunBy_eq]
  induction started with
  | all => rfl
  | failed o rest e => rfl
  | next o given later ih =>
    rw [List.map_cons, ih]
    rfl

theorem starting_eq (c : RunContext) (spec : StageSpec) (live target begun : Nat) :
    ((Opening.ofStage spec target (target - live) live).take (begun + 1)).map
      (fun o => [LoggedCall.start (o.options c)]) = starting c spec live target begun := by
  have taken : (List.range' live (target - live)).take (begun + 1) =
      List.range' live (min (begun + 1) (target - live)) := by
    by_cases all : target - live ≤ begun + 1
    · rw [List.take_range'_of_length_le all, Nat.min_eq_right all]
    · have part := Nat.le_of_not_le all
      rw [List.take_range'_of_length_ge part, Nat.min_eq_left part]
  rw [starting, Opening.ofStage, ← List.map_take, taken, List.map_map]
  rfl

theorem inOrder_ascending (keys : List StageKey) :
    (inOrder keys).Pairwise (fun a b => compare a b = .lt) :=
  SortedMap.keys_ascending _

theorem mem_inOrder {keys : List StageKey} {key : StageKey} : key ∈ inOrder keys ↔ key ∈ keys := by
  rw [inOrder, SortedMap.ofList, SortedMap.mem_keys_insertAll]
  simp [SortedMap.keys, SortedMap.empty]

theorem withdrawal_eq {run : Run} {registry : Registry Handle} {count : String → Nat} {stage : String}
    {left : Nat} (numbered : Registry.Numbered run.registry count)
    (after : Registry.Numbered registry (Function.update count stage left)) :
    (Call.fanOut .stop (Registry.all registry)).logged = withdrawal run stage left := by
  have keys : inOrder (run.registry.keys.filter (·.stage ≠ stage) ++
      (List.range left).map (StageKey.mk stage)) = registry.keys := by
    apply SortedMap.ascending_unique (inOrder_ascending _) registry.keys_ascending
    intro ⟨s, id⟩
    rw [mem_inOrder, List.mem_append, List.mem_filter, numbered, after]
    by_cases here : s = stage
    · subst here
      simp
    · simp [here, Ne.symm here]
  rw [withdrawal, keys]
  simp [Call.logged, Registry.all, SortedMap.keys]

namespace Reshaped
variable {run : Run} {spec : StageSpec} {target : Nat} {registry : Registry Handle}
  {count : String → Nat}

theorem phases (staffed : Registry.Numbered run.registry (Registry.liveCount run.registry))
    (work : Reshaped run spec (Registry.liveCount run.registry spec.name) target log registry x) :
    protocol run.context run spec target (repartitioned log) (begunBy log) =
      log.map (·.call.logged) ++
        if x.isOk then [] else [(Call.fanOut .stop (Registry.all registry)).logged] := by
  have left := withdrawal_eq staffed (reshaped_numbered staffed work)
  unfold leftWith at left
  rw [left]
  cases work with
  | @kept more log e around =>
    have refused : repartitioned log = false := by
      simpa using around.ok_iff_repartitioned
    have failed : (Except.error e : Outcome).isOk = false := rfl
    rw [refused, around.begunBy_eq, around.phases staffed, refused, failed]
    simp [protocol, more]
  | @grown more log log' begun x around started =>
    have granted := around.ok_iff_repartitioned.mp rfl
    have calls := started.phases
    rw [starting_eq] at calls
    have finished : x.isOk ↔ begunBy log' = target - Registry.liveCount run.registry spec.name := by
      rw [isOk_iff, started.ok_iff_length, started.begunBy_eq]
      simp only [Opening.ofStage, List.length_map, List.length_range']
    rw [begunBy_append, around.begunBy_eq, Nat.zero_add, repartitioned_append, granted,
      Bool.true_or, List.map_append, around.phases staffed, calls, granted]
    simp [protocol, more, finished]
  | @shrunk fewer log x stopped around =>
    have told : (Call.fanOut .stop (excess spec.name
        (Registry.liveCount run.registry spec.name) target run)).logged =
        requests .stop spec.name
          (List.range' target (Registry.liveCount run.registry spec.name - target)) := by
      have keys := congrArg (List.map (LoggedCall.request .stop))
        (excess_keys staffed spec.name target)
      simpa [Call.logged, requests, Function.comp_def] using keys
    have remaining := reshaped_numbered staffed
      (Reshaped.shrunk fewer stopped around)
    rw [leftWith, if_neg fewer] at remaining
    have calls := around.phases remaining
    rw [Function.update_self] at calls
    have finished : x.isOk ↔ repartitioned log = true := isOk_iff.trans around.ok_iff_repartitioned
    rw [← List.singleton_append, repartitioned_append, List.map_append, calls]
    simp [protocol, fewer, finished, told, repartitioned, Exchange.isGranted]

end Reshaped

section
variable {run run' : Run} {spec : StageSpec} {target : Nat}

theorem Rescaled.phases (staffed : Registry.Numbered run.registry (Registry.liveCount run.registry))
    (course : Rescaled run spec (Registry.liveCount run.registry spec.name) target log run' x) :
    log.map (·.call.logged) =
      protocol run.context run spec target (repartitioned log) (begunBy log) := by
  cases course with
  | complete work =>
    rw [work.phases staffed]
    simp [Except.isOk, Except.toBool]
  | @failed log registry cause work report =>
    have refused : ∀ e ∈ [(⟨.fanOut .stop (Registry.all registry), report⟩ : Exchange)],
        e.isGranted = false := by
      simp [Exchange.isGranted]
    rw [repartitioned_append, repartitioned_refused refused, Bool.or_false, begunBy_append,
      begunBy_refused refused, Nat.add_zero, work.phases staffed]
    simp [Except.isOk, Except.toBool]

theorem phases_of_returned
    (staffed : Registry.Numbered run.registry (Registry.liveCount run.registry))
    (due : Due run spec.name target spec)
    (returned : Returns (changeInstances spec.name target) run log run' x) :
    log.map (·.call.logged) =
      protocol run.context run spec target (repartitioned log) (begunBy log) := by
  rw [Returns, changeInstances_due due] at returned
  exact (returns_rescale returned).phases staffed

theorem phases_prefix (staffed : Registry.Numbered run.registry (Registry.liveCount run.registry))
    (due : Due run spec.name target spec) {b : Activity Outcome}
    (leads : (changeInstances spec.name target run).Leads log b) :
    b.phases log <+: protocol run.context run spec target (repartitioned log) (begunBy log) := by
  cases b with
  | done run' x =>
    have whole := phases_of_returned staffed due leads
    exact whole ▸ List.prefix_rfl
  | waiting run' call resume =>
    have awaits : Awaits (changeInstances spec.name target) run log run' call := ⟨resume, leads⟩
    -- Refused whatever it asks for from here on, it comes to its end by the same protocol.
    obtain ⟨rest, last, x, returned, refused⟩ := awaits.exists_returns
    have whole := phases_of_returned staffed due returned
    have unanswered : ∀ e ∈ ⟨call, Activity.refusal call⟩ :: rest, e.isGranted = false :=
      List.forall_mem_cons.mpr ⟨Activity.refusal_not_granted call, refused⟩
    rw [repartitioned_append, repartitioned_refused unanswered, Bool.or_false, begunBy_append,
      begunBy_refused unanswered, Nat.add_zero] at whole
    rw [← whole, List.map_append, List.map_cons]
    exact (List.prefix_append_right_inj _).mpr (List.prefix_append [call.logged] _)

end

/-- The calls of a rescale, whatever the answers, are made in the order of the protocol, and all
of them if it returns. In virtual time they are made in this order too, and as long as a request of
a fan-out has neither come back nor been given up, nothing further is called for. -/
theorem rescale_order {program : Program} {options : RunOptions} {before : List Exchange}
    {run : Run} {spec : StageSpec} {target : Nat}
    (made : RunContext.ofProgram program options = .ok c) (reached : Reached c before run)
    (alive : run.state = .alive) (declared : spec ∈ c.flow.stages) (some_instances : 1 ≤ target)
    (differs : target ≠ Registry.liveCount run.registry spec.name) :
    (∀ log b, ((RunRequest.changeInstances spec.name target).operation run).Leads log b →
      b.phases log <+: protocol c run spec target (repartitioned log) (begunBy log) ∧
      ∀ run' answer, b = .done run' answer →
        b.phases log = protocol c run spec target (repartitioned log) (begunBy log)) ∧
    ∀ place s₀ s act, s₀.run = run →
      Moment place (.changeInstances spec.name target) s₀ s act →
      (act.Asks (.changeInstances spec.name target) ∧ s.world.calls = s₀.world.calls) ∨
      ∃ log b, ((RunRequest.changeInstances spec.name target).operation run).Leads log b ∧
        At place s act b ∧ s.world.calls = (b.phases log).flatten.reverse ++ s₀.world.calls := by
  have accepted := RunContext.accepted_of_ofProgram made
  have sound := sound_of_accepted accepted reached
  have staffed := (sound.staffed (.inl alive)).keys
  have due := reached.due accepted alive declared some_instances differs
  constructor
  · intro log b leads
    obtain ⟨b', before, rfl⟩ := Activity.map_leads_iff.mp leads
    have start := phases_prefix staffed due before
    rw [sound.context] at start
    rw [Activity.map_phases]
    refine ⟨start, ?_⟩
    intro run' answer finished
    cases b' with
    | done last x => exact sound.context ▸ phases_of_returned staffed due before
    | waiting last call resume => cases finished
  · intro place s₀ s act here moment
    rcases moment.course with ⟨asks, _, calls⟩ | ⟨log, b, leads, stands, _, calls, _⟩
    · exact .inl ⟨asks, calls⟩
    · exact .inr ⟨log, b, here ▸ leads, stands, calls⟩

theorem lone_order :
    loneGrowth.map (·.call.logged) =
      protocol loneContext loneRun loneStage 2 (repartitioned loneGrowth) (begunBy loneGrowth) := by
  have order := rescale_order lone_made lone_reached rfl List.mem_cons_self (by decide) lone_differs
  have leads := lone_grown.bind fun run x => .done run (RunAnswer.outcome x)
  exact (order.1 _ _ leads).2 _ _ rfl

end
end FlowRuntime
