import FlowRuntime.Proofs.Run.Sharing
import FlowRuntime.Proofs.Text.Bytes

/-!
What a binding collects. A connection adds its queue to those of the stage it leads into, so
which queues a stage has is a question of which connections there are, and neither of their order
nor of how often one is given. We verify this for all flows, be they accepted or not, and that a
run repartitions for a stage the very queues that it bound for it.
-/
namespace FlowRuntime

def FlowSpec.Feeds (f : FlowSpec) (stage : String) : Prop :=
  ∃ c ∈ f.connections, c.target = stage

instance (f : FlowSpec) (stage : String) : Decidable (f.Feeds stage) :=
  inferInstanceAs (Decidable (∃ c ∈ f.connections, c.target = stage))

namespace Binding
variable {b b' : Binding} {program : ProgramId} {flow : FlowSpec}

theorem mem_queues {stage : String} {queue : QueueName} :
    queue ∈ b.queues stage ↔
      ∃ queues, b.stages.get? stage = some queues ∧ queues.get? queue = some () := by
  unfold queues
  cases b.stages.get? stage with
  | none => simp
  | some queues =>
    rw [SortedMap.mem_keys]
    simp only [Option.some.injEq, exists_eq_left']
    exact ⟨fun ⟨_, found⟩ => found, fun found => ⟨(), found⟩⟩

theorem queues_ascending (b : Binding) (stage : String) :
    (b.queues stage).Pairwise fun q q' => compare q q' = .lt := by
  unfold queues
  split
  · exact .nil
  · exact SortedMap.keys_ascending _

theorem ext_queues (known : ∀ stage, b.stages.contains stage = b'.stages.contains stage)
    (same : ∀ stage queue, queue ∈ b.queues stage ↔ queue ∈ b'.queues stage) : b = b' := by
  cases b with | mk stages =>
  cases b' with | mk stages' =>
  congr 1
  apply SortedMap.ext_get?
  intro stage
  -- A stage without queues may be known or not, so the queues alone do not settle this.
  have known := known stage
  have same := same stage
  simp only [mem_queues, SortedMap.contains] at known same
  cases here : stages.get? stage with
  | none =>
    cases there : stages'.get? stage with
    | none => rfl
    | some queues' => simp [here, there] at known
  | some queues =>
    cases there : stages'.get? stage with
    | none => simp [here, there] at known
    | some queues' =>
      congr 1
      apply SortedMap.ext_get?
      intro queue
      apply Option.ext
      intro held
      simpa [here, there] using same queue

/-! ### One connection after the other -/

theorem mem_queues_add {stage stage' : String} {queue queue' : QueueName} :
    queue ∈ (b.add stage' queue').queues stage ↔
      (stage' = stage ∧ queue' = queue) ∨ queue ∈ b.queues stage := by
  rw [mem_queues, mem_queues, add]
  by_cases here : stage' = stage
  · subst here
    by_cases this : queue' = queue
    · simp [this]
    · cases found : b.stages.get? stage' with
      | none => simp [this, SortedMap.get?_insert_ne _ (Ne.symm this)]
      | some queues => simp [this, SortedMap.get?_insert_ne _ (Ne.symm this)]
  · simp [here, SortedMap.get?_insert_ne _ (Ne.symm here)]

theorem contains_add {stage stage' : String} {queue : QueueName} :
    (b.add stage' queue).stages.contains stage = true ↔
      stage' = stage ∨ b.stages.contains stage = true := by
  unfold add SortedMap.contains
  by_cases here : stage' = stage
  · simp [here]
  · simp [here, SortedMap.get?_insert_ne _ (Ne.symm here)]

theorem mem_queues_foldl {connections : List FlowConnection} {stage : String} {queue : QueueName} :
    queue ∈ (connections.foldl (fun b c => b.add c.target (.ofConnection program c)) b).queues stage ↔
      (∃ c ∈ connections, c.target = stage ∧ .ofConnection program c = queue) ∨
        queue ∈ b.queues stage := by
  induction connections generalizing b with
  | nil => simp
  | cons c rest ih =>
    rw [List.foldl_cons, ih, mem_queues_add, List.exists_mem_cons_iff, or_assoc, or_left_comm]

theorem contains_foldl {connections : List FlowConnection} {stage : String} :
    (connections.foldl (fun b c => b.add c.target (.ofConnection program c)) b).stages.contains stage
        = true ↔
      (∃ c ∈ connections, c.target = stage) ∨ b.stages.contains stage = true := by
  induction connections generalizing b with
  | nil => simp
  | cons c rest ih =>
    rw [List.foldl_cons, ih, contains_add, List.exists_mem_cons_iff, or_assoc, or_left_comm]

/-! ### Whole flows -/

theorem mem_queues_ofFlow {stage : String} {queue : QueueName} :
    queue ∈ (ofFlow program flow).queues stage ↔
      ∃ c ∈ flow.connections, c.target = stage ∧ .ofConnection program c = queue := by
  rw [ofFlow, mem_queues_foldl, or_iff_left]
  simp [queues, empty]

theorem contains_ofFlow {stage : String} :
    (ofFlow program flow).stages.contains stage = true ↔ flow.Feeds stage := by
  rw [ofFlow, contains_foldl, or_iff_left]
  · rfl
  · simp [SortedMap.contains, empty]

theorem ofFlow_congr {flow' : FlowSpec}
    (same : ∀ c, c ∈ flow'.connections ↔ c ∈ flow.connections) :
    ofFlow program flow' = ofFlow program flow := by
  apply ext_queues
  · intro stage
    rw [Bool.eq_iff_iff, contains_ofFlow, contains_ofFlow, FlowSpec.Feeds, FlowSpec.Feeds]
    simp only [same]
  · intro stage queue
    simp only [mem_queues_ofFlow, same]

theorem consumerGroups_ofFlow :
    (ofFlow program flow).consumerGroups program flow =
      (flow.stages.filter fun s => flow.Feeds s.name).map fun s =>
        ⟨s.name, groupId program s.name, s.instances.toNat, (ofFlow program flow).queues s.name⟩ := by
  unfold consumerGroups
  congr 1
  apply List.filter_congr
  intro s _
  rw [Bool.eq_iff_iff, contains_ofFlow, decide_eq_true_iff]

theorem mem_groups_stage {stage : String} :
    stage ∈ ((ofFlow program flow).consumerGroups program flow).map (·.stage) ↔
      stage ∈ flow.stageNames ∧ flow.Feeds stage := by
  rw [consumerGroups_ofFlow, List.map_map]
  simp only [List.mem_map, List.mem_filter, decide_eq_true_iff, FlowSpec.stageNames,
    Function.comp_apply]
  constructor
  · rintro ⟨s, ⟨mem, fed⟩, rfl⟩
    exact ⟨⟨s, mem, rfl⟩, fed⟩
  · rintro ⟨⟨s, mem, rfl⟩, fed⟩
    exact ⟨s, ⟨mem, fed⟩, rfl⟩

end Binding

/-- What there is to say about the binding of a flow and its consumer groups. -/
structure Collected (program : ProgramId) (flow : FlowSpec) (b : Binding)
    (groups : List ConsumerGroup) : Prop where
  ascending : ∀ stage, (b.queues stage).Pairwise fun q q' =>
    List.Lex (· < ·) (Text.bytes q) (Text.bytes q')
  nodup : ∀ stage, (b.queues stage).Nodup
  queues : ∀ stage queue, queue ∈ b.queues stage ↔
    ∃ c ∈ flow.connections, c.target = stage ∧ .ofConnection program c = queue
  grouped : ∀ stage, stage ∈ groups.map (·.stage) ↔ stage ∈ flow.stageNames ∧ flow.Feeds stage
  listed : groups = (flow.stages.filter fun s => flow.Feeds s.name).map fun s =>
    ⟨s.name, groupId program s.name, s.instances.toNat, b.queues s.name⟩
  unordered : ∀ flow' : FlowSpec, flow'.stages = flow.stages →
    (∀ c, c ∈ flow'.connections ↔ c ∈ flow.connections) →
    .ofFlow program flow' = b ∧ (Binding.ofFlow program flow').consumerGroups program flow' = groups

/-- Whatever stage was repartitioned, it was by all its queues, and by those that were bound for it. -/
def Requeued (program : ProgramId) (b : Binding) (log : List Exchange) : Prop :=
  ∀ g answer, ⟨.repartition g, answer⟩ ∈ log →
    g.queues = b.queues g.stage ∧ g.groupId = groupId program g.stage ∧
      ∀ groups answer', ⟨.bind groups, answer'⟩ ∈ log → ∀ g' ∈ groups, g'.stage = g.stage →
        g'.queues = g.queues ∧ g'.groupId = g.groupId

theorem Binding.collected (program : ProgramId) (flow : FlowSpec) :
    Collected program flow (.ofFlow program flow)
      ((ofFlow program flow).consumerGroups program flow) where
  ascending stage := ((ofFlow program flow).queues_ascending stage).imp
    Text.compare_eq_lt_iff_bytes.mp
  nodup stage := SortedMap.ascending_nodup ((ofFlow program flow).queues_ascending stage)
  queues _ _ := mem_queues_ofFlow
  grouped _ := mem_groups_stage
  listed := consumerGroups_ofFlow
  unordered flow' stages same := by
    rw [ofFlow_congr same, consumerGroups, stages]
    exact ⟨rfl, rfl⟩

theorem Exchanged.requeued {c : RunContext} {log : List Exchange} (accepted : c.flow.Accepted)
    (ran : Exchanged c log) : Requeued c.run.program c.binding log := by
  have owns := ran.owns accepted
  intro g answer regrouped
  have own := (owns _ regrouped g List.mem_cons_self).group
  refine ⟨congrArg ConsumerGroup.queues own, congrArg ConsumerGroup.groupId own, ?_⟩
  intro groups answer' bound g' mem same
  have own' := (owns _ bound g' mem).group
  rw [own', own, same]
  exact ⟨rfl, rfl⟩

/-- For all flows, what is bound are the queues of the connections, in ascending order and once
each; and the runs that there are of the flow stay with them. -/
theorem binding_collects (program : ProgramId) (flow : FlowSpec) :
    Collected program flow (.ofFlow program flow)
        ((Binding.ofFlow program flow).consumerGroups program flow) ∧
      ∀ (source : Program) options c log, RunContext.ofProgram source options = .ok c →
        c.run.program = program → c.flow = flow → Exchanged c log →
          Requeued program (.ofFlow program flow) log := by
  refine ⟨Binding.collected program flow, ?_⟩
  rintro source options c log made rfl rfl ran
  exact ran.requeued (RunContext.accepted_of_ofProgram made)

/-! Two streams feed a stage, one of them twice. It has one instance when it is started, and then two. -/

def mixerStage : StageSpec := ⟨"mixer", 1, .empty⟩

def mixerFlow : FlowSpec :=
  ⟨"flow", [mixerStage],
    [⟨.stream "b", "mixer", "out"⟩, ⟨.stream "a", "mixer", "out"⟩, ⟨.stream "b", "mixer", "out"⟩]⟩

def mixerProgram : Program :=
  ⟨.flow "default" "app" "flow", ⟨"default", "app", [mixerFlow]⟩⟩

def mixerContext : RunContext := ⟨⟨mixerProgram.id, loneOptions.runId⟩, mixerFlow, loneOptions⟩

def mixerRun : Run :=
  ((Run.starting mixerContext).holdAll [(⟨"mixer", 0⟩, 0)]).publish.transition .alive none

def mixerStart : List Exchange :=
  [⟨.bind mixerContext.consumerGroups, .ok ()⟩,
    ⟨.start (mixerContext.instanceOptions mixerStage 0 1), .ok (0 : Handle)⟩]

def mixerGrowth : List Exchange :=
  [⟨.fanOut .suspend [(⟨"mixer", 0⟩, 0)], ⟨[⟨"mixer", 0⟩], []⟩⟩,
    ⟨.repartition (mixerContext.consumerGroup "mixer" 2), .ok ()⟩]

theorem mixer_reached : Reached mixerContext mixerStart mixerRun :=
  .started (.next _ (.next _ (.here _)))

theorem mixer_exchanged : Exchanged mixerContext (mixerStart ++ mixerGrowth) :=
  @Exchanged.busy _ _ _ _ (.changeInstances "mixer" 2) _ mixer_reached (.next _ (.next _ (.here _)))

theorem mixer_collected :
    RunContext.ofProgram mixerProgram loneOptions = .ok mixerContext ∧
      Exchanged mixerContext (mixerStart ++ mixerGrowth) ∧
      (∃ g answer, ⟨.repartition g, answer⟩ ∈ mixerStart ++ mixerGrowth ∧
        g.queues = ["stream:///a", "stream:///b"] ∧ g.partitions = 2) ∧
      Requeued mixerProgram.id (.ofFlow mixerProgram.id mixerFlow) (mixerStart ++ mixerGrowth) := by
  refine ⟨rfl, mixer_exchanged, ⟨mixerContext.consumerGroup "mixer" 2, .ok (), ?_, ?_, rfl⟩, ?_⟩
  · exact List.mem_append_right _ (List.mem_cons_of_mem _ List.mem_cons_self)
  · decide +kernel
  · exact (binding_collects mixerProgram.id mixerFlow).2 mixerProgram loneOptions mixerContext _ rfl
      rfl rfl mixer_exchanged

end FlowRuntime
