import FlowRuntime.Proofs.Queue.Binding

/-!
What the check of a flow says. The flows that it accepts are those that are well formed. Of any
other flow it reports what is at fault first, as one reads the flow from its beginning: whether
there are stages, then stage after stage, then connection after connection. We verify both for all
flows, and that a flow that was accepted can be provided for: its stages are found by their
names, those that are fed have one consumer group each, and binding these gives every stage the
partitions that are declared for it.
-/
namespace FlowRuntime

/-- A check that goes through a list and stops at the first item at fault. What is at fault with an
item may depend on those seen before. -/
structure StopsAtFault {σ α ε : Type} (check : σ → List α → Except ε Unit) (next : σ → α → σ)
    (Fault : σ → α → ε → Prop) : Prop where
  passes : ∀ seen, check seen [] = .ok ()
  stops : ∀ {seen a e} rest, Fault seen a e → check seen (a :: rest) = .error e
  goes_on : ∀ {seen a} rest, (∀ e, ¬ Fault seen a e) →
    check seen (a :: rest) = check (next seen a) rest

namespace StopsAtFault
variable {σ α ε : Type} {check : σ → List α → Except ε Unit} {next : σ → α → σ}
  {Fault : σ → α → ε → Prop} {seen : σ} {items : List α} {e : ε}

theorem append (stops : StopsAtFault check next Fault) (passed : check seen items = .ok ())
    (rest : List α) : check seen (items ++ rest) = check (items.foldl next seen) rest := by
  induction items generalizing seen with
  | nil => rfl
  | cons a others ih =>
    have sound : ∀ e, ¬ Fault seen a e := by
      intro e found
      rw [stops.stops others found] at passed
      cases passed
    rw [stops.goes_on others sound] at passed
    rw [List.cons_append, stops.goes_on _ sound, ih passed, List.foldl_cons]

theorem exists_fault (stops : StopsAtFault check next Fault) (failed : check seen items ≠ .ok ()) :
    ∃ before a after e, items = before ++ a :: after ∧ check seen before = .ok () ∧
      Fault (before.foldl next seen) a e := by
  induction items generalizing seen with
  | nil => exact absurd (stops.passes seen) failed
  | cons a rest ih =>
    by_cases faulty : ∃ e, Fault seen a e
    · obtain ⟨e, found⟩ := faulty
      exact ⟨[], a, rest, e, rfl, stops.passes seen, found⟩
    · have sound := not_exists.mp faulty
      rw [stops.goes_on rest sound] at failed
      obtain ⟨before, a', after, e, rfl, passed, found⟩ := ih failed
      refine ⟨a :: before, a', after, e, rfl, ?_, found⟩
      rw [stops.goes_on before sound, passed]

theorem error_iff (stops : StopsAtFault check next Fault) :
    check seen items = .error e ↔ ∃ before a after, items = before ++ a :: after ∧
      check seen before = .ok () ∧ Fault (before.foldl next seen) a e := by
  constructor
  · intro failed
    have faulty : check seen items ≠ .ok () := by simp [failed]
    obtain ⟨before, a, after, e', rfl, passed, found⟩ := stops.exists_fault faulty
    rw [stops.append passed, stops.stops after found] at failed
    cases failed
    exact ⟨before, a, after, rfl, passed, found⟩
  · rintro ⟨before, a, after, rfl, passed, found⟩
    rw [stops.append passed, stops.stops after found]

end StopsAtFault

namespace FlowSpec

structure Proper (stages : List StageSpec) : Prop where
  named : ∀ s ∈ stages, s.name ≠ ""
  distinct : (stages.map (·.name)).Nodup
  busy : ∀ s ∈ stages, s.instances ≠ 0

structure Linked (names : List String) (c : FlowConnection) : Prop where
  target : c.target ∈ names
  source : ∀ s, c.source = .stage s → s ∈ names

structure WellFormed (f : FlowSpec) : Prop where
  some_stage : f.stages ≠ []
  proper : Proper f.stages
  linked : ∀ c ∈ f.connections, Linked f.stageNames c

/-- What is at fault first with a stage, if stages of these names were declared before. -/
inductive StageFault (flow : String) (seen : List String) (s : StageSpec) : SpecFault → Prop where
  | unnamed (bare : s.name = "") : StageFault flow seen s (.unnamedStage flow)
  | repeated (named : s.name ≠ "") (known : s.name ∈ seen) :
      StageFault flow seen s (.repeatedStage flow s.name)
  | idle (named : s.name ≠ "") (fresh : s.name ∉ seen) (none : s.instances = 0) :
      StageFault flow seen s (.idleStage flow s.name)

inductive ConnectionFault (flow : String) (names : List String) (c : FlowConnection) :
    SpecFault → Prop where
  | target (unknown : c.target ∉ names) : ConnectionFault flow names c (.unknownTarget flow c.target)
  | source {s : String} (known : c.target ∈ names) (reads : c.source = .stage s)
      (unknown : s ∉ names) : ConnectionFault flow names c (.unknownSource flow s)

/-- What is at fault first with a flow: nothing is with what is written before it. -/
inductive FirstFault (f : FlowSpec) : SpecFault → Prop where
  | noStages (bare : f.stages = []) : FirstFault f (.noStages f.name)
  | stage {before after : List StageSpec} {s : StageSpec} {fault : SpecFault}
      (split : f.stages = before ++ s :: after) (proper : Proper before)
      (found : StageFault f.name (before.map (·.name)) s fault) : FirstFault f fault
  | connection {before after : List FlowConnection} {c : FlowConnection} {fault : SpecFault}
      (some_stage : f.stages ≠ []) (proper : Proper f.stages)
      (split : f.connections = before ++ c :: after)
      (linked : ∀ c' ∈ before, Linked f.stageNames c')
      (found : ConnectionFault f.name f.stageNames c fault) : FirstFault f fault

section
variable {flow : String} {seen seen' names : List String} {s : StageSpec} {stages : List StageSpec}
  {c : FlowConnection} {connections : List FlowConnection} {fault : SpecFault}

theorem StageFault.congr (same : ∀ name, name ∈ seen ↔ name ∈ seen') :
    StageFault flow seen s fault ↔ StageFault flow seen' s fault := by
  have half {seen seen' : List String} (same : ∀ name, name ∈ seen ↔ name ∈ seen')
      (found : StageFault flow seen s fault) : StageFault flow seen' s fault := by
    cases found with
    | unnamed bare => exact .unnamed bare
    | repeated named known => exact .repeated named ((same _).mp known)
    | idle named fresh none => exact .idle named (fun known => fresh ((same _).mpr known)) none
  exact ⟨half same, half fun name => (same name).symm⟩

theorem checkStages_stops :
    StopsAtFault (checkStages flow) (fun seen s => s.name :: seen) (StageFault flow) where
  passes _ := rfl
  stops rest found := by
    cases found with
    | unnamed bare => simp [checkStages, bare]
    | repeated named known => simp [checkStages, named, known]
    | idle named fresh none => simp [checkStages, named, fresh, none]
  goes_on {seen s} rest sound := by
    have named : s.name ≠ "" := fun bare => sound _ (.unnamed bare)
    have fresh : s.name ∉ seen := fun known => sound _ (.repeated named known)
    have busy : s.instances ≠ 0 := fun none => sound _ (.idle named fresh none)
    simp [checkStages, named, fresh, busy]

theorem checkStages_ok_iff_proper : checkStages flow [] stages = .ok () ↔ Proper stages := by
  rw [checkStages_ok_iff]
  constructor
  · intro ⟨each, distinct, _⟩
    exact ⟨fun s mem => (each s mem).1, distinct, fun s mem => (each s mem).2⟩
  · intro proper
    exact ⟨fun s mem => ⟨proper.named s mem, proper.busy s mem⟩, proper.distinct, by simp⟩

theorem checkStages_error_iff :
    checkStages flow [] stages = .error fault ↔ ∃ before s after, stages = before ++ s :: after ∧
      Proper before ∧ StageFault flow (before.map (·.name)) s fault := by
  have names (before : List StageSpec) (name : String) :
      name ∈ before.foldl (fun seen s => s.name :: seen) [] ↔ name ∈ before.map (·.name) := by
    simp [List.foldl_flip_cons_eq_append]
  rw [checkStages_stops.error_iff]
  simp only [checkStages_ok_iff_proper, StageFault.congr (names _)]

theorem linked_iff : Linked names c ↔ ∀ fault, ¬ ConnectionFault flow names c fault := by
  constructor
  · rintro linked fault (unknown | ⟨_, reads, unknown⟩)
    · exact unknown linked.target
    · exact unknown (linked.source _ reads)
  · intro sound
    have known : c.target ∈ names := by
      by_contra unknown
      exact sound _ (.target unknown)
    refine ⟨known, fun s reads => ?_⟩
    by_contra unknown
    exact sound _ (.source known reads unknown)

theorem checkConnections_stops :
    StopsAtFault (checkConnections flow) (fun names _ => names) (ConnectionFault flow) where
  passes _ := rfl
  stops rest found := by
    cases found with
    | target unknown => simp [checkConnections, unknown]
    | source known reads unknown => simp [checkConnections, known, reads, unknown]
  goes_on {names c} rest sound := by
    have linked := linked_iff.mpr sound
    cases reads : c.source with
    | stream name => simp [checkConnections, linked.target, reads]
    | stage s => simp [checkConnections, linked.target, reads, linked.source s reads]

theorem checkConnections_ok_iff :
    checkConnections flow names connections = .ok () ↔ ∀ c ∈ connections, Linked names c := by
  induction connections with
  | nil => simp [checkConnections]
  | cons head rest ih =>
    rw [List.forall_mem_cons, ← ih]
    by_cases linked : Linked names head
    · rw [checkConnections_stops.goes_on rest (linked_iff.mp linked), and_iff_right linked]
    · obtain ⟨fault, found⟩ := not_forall.mp (mt linked_iff.mpr linked)
      rw [checkConnections_stops.stops rest (not_not.mp found)]
      simp [linked]

theorem checkConnections_error_iff :
    checkConnections flow names connections = .error fault ↔ ∃ before c after,
      connections = before ++ c :: after ∧ (∀ c' ∈ before, Linked names c') ∧
        ConnectionFault flow names c fault := by
  rw [checkConnections_stops.error_iff]
  simp only [checkConnections_ok_iff, List.foldl_fixed]

end

/-! ### Flows -/

section
variable {f : FlowSpec} {fault : SpecFault}

theorem validate_ok_iff : f.validate = .ok () ↔ WellFormed f := by
  unfold validate
  by_cases bare : f.stages = []
  · simp only [bare, if_true, reduceCtorEq, false_iff]
    intro formed
    exact formed.some_stage bare
  · rw [if_neg bare]
    cases checked : checkStages f.name [] f.stages with
    | error fault =>
      simp only [reduceCtorEq, false_iff]
      intro formed
      rw [checkStages_ok_iff_proper.mpr formed.proper] at checked
      cases checked
    | ok _ =>
      have proper := checkStages_ok_iff_proper.mp checked
      rw [checkConnections_ok_iff]
      exact ⟨fun linked => ⟨bare, proper, linked⟩, fun formed => formed.linked⟩

theorem validate_error_iff : f.validate = .error fault ↔ FirstFault f fault := by
  unfold validate
  by_cases bare : f.stages = []
  · rw [if_pos bare]
    constructor
    · intro same
      cases same
      exact .noStages bare
    · rintro (_ | ⟨split, _, _⟩ | ⟨some_stage, _, _, _, _⟩)
      · rfl
      · simp [bare] at split
      · exact absurd bare some_stage
  · rw [if_neg bare]
    cases checked : checkStages f.name [] f.stages with
    | error fault' =>
      constructor
      · intro same
        cases same
        obtain ⟨before, s, after, split, proper, found⟩ := checkStages_error_iff.mp checked
        exact .stage split proper found
      · rintro (bare' | ⟨split, proper, found⟩ | ⟨_, proper, _, _, _⟩)
        · exact absurd bare' bare
        · have reported := checkStages_error_iff.mpr ⟨_, _, _, split, proper, found⟩
          exact checked.symm.trans reported
        · rw [checkStages_ok_iff_proper.mpr proper] at checked
          cases checked
    | ok _ =>
      have proper := checkStages_ok_iff_proper.mp checked
      dsimp only
      rw [checkConnections_error_iff]
      constructor
      · rintro ⟨before, c, after, split, linked, found⟩
        exact .connection bare proper split linked found
      · rintro (bare' | ⟨split, earlier, found⟩ | ⟨_, _, split, linked, found⟩)
        · exact absurd bare' bare
        · rw [checkStages_error_iff.mpr ⟨_, _, _, split, earlier, found⟩] at checked
          cases checked
        · exact ⟨_, _, _, split, linked, found⟩

theorem WellFormed.accepted (formed : WellFormed f) : Accepted f :=
  accepted_of_validate (validate_ok_iff.mpr formed)

end
end FlowSpec

/-! ### What is bound for a flow -/

/-- What there is for a flow that was accepted. -/
structure Provided (program : ProgramId) (f : FlowSpec) (b : Binding) (groups : List ConsumerGroup) :
    Prop where
  found : ∀ s ∈ f.stages, f.stage? s.name = some s
  grouped : ∀ stage, groups.countP (·.stage = stage) = if f.Feeds stage then 1 else 0
  busy : ∀ g ∈ groups, 1 ≤ g.partitions
  bound : ∀ p : Partitioner, (p.bind groups).2 = .ok ()
  allotted : (groups.map (·.groupId)).Nodup → ∀ p : Partitioner, ∀ s ∈ f.stages, f.Feeds s.name →
    (p.bind groups).1.stagePartitions? s.name = some s.instances.toNat ∧
      ∀ queue ∈ b.queues s.name,
        (p.bind groups).1.partitions? queue (groupId program s.name) = some s.instances.toNat

section
variable {program : ProgramId} {f : FlowSpec}

theorem FlowSpec.WellFormed.feeds_declared (formed : f.WellFormed) {stage : String}
    (fed : f.Feeds stage) : stage ∈ f.stageNames := by
  obtain ⟨c, mem, rfl⟩ := fed
  exact (formed.linked c mem).target

theorem FlowSpec.WellFormed.groups_nodup (formed : f.WellFormed) :
    (((Binding.ofFlow program f).consumerGroups program f).map (·.stage)).Nodup :=
  Binding.consumerGroups_stages.nodup formed.proper.distinct

theorem FlowSpec.WellFormed.count_groups (formed : f.WellFormed) (stage : String) :
    ((Binding.ofFlow program f).consumerGroups program f).countP (·.stage = stage) =
      if f.Feeds stage then 1 else 0 := by
  have listed : ((Binding.ofFlow program f).consumerGroups program f).countP (·.stage = stage) =
      (((Binding.ofFlow program f).consumerGroups program f).map (·.stage)).count stage := by
    rw [List.count, List.countP_map]
    congr 1
  rw [listed]
  split
  · rename_i fed
    exact List.count_eq_one_of_mem formed.groups_nodup
      (Binding.mem_groups_stage.mpr ⟨formed.feeds_declared fed, fed⟩)
  · rename_i unfed
    exact List.count_eq_zero_of_not_mem fun mem => unfed (Binding.mem_groups_stage.mp mem).2

theorem FlowSpec.WellFormed.provided (formed : f.WellFormed) (program : ProgramId) :
    Provided program f (.ofFlow program f) ((Binding.ofFlow program f).consumerGroups program f) := by
  have some_partitions : ∀ g ∈ (Binding.ofFlow program f).consumerGroups program f,
      g.partitions ≠ 0 := Binding.consumerGroups_busy formed.accepted
  refine ⟨fun s => formed.accepted.stage?_name, formed.count_groups,
    fun g mem => Nat.pos_of_ne_zero (some_partitions g mem),
    fun p => Partitioner.bind_ok some_partitions, ?_⟩
  intro apart p s declared fed
  have mem : ⟨s.name, groupId program s.name, s.instances.toNat,
      (Binding.ofFlow program f).queues s.name⟩ ∈
      (Binding.ofFlow program f).consumerGroups program f := by
    rw [Binding.consumerGroups_ofFlow]
    exact List.mem_map.mpr ⟨s, List.mem_filter.mpr ⟨declared, decide_eq_true fed⟩, rfl⟩
  constructor
  · rw [Partitioner.stagePartitions?_bind some_partitions, lastSet_of_only mem (by simp),
      Option.some_or]
    intro g' mem' own
    exact List.inj_on_of_nodup_map formed.groups_nodup mem' mem (of_decide_eq_true own)
  · intro queue consumed
    exact Partitioner.partitions?_bind_of_mem some_partitions apart mem consumed

/-- The check accepts what is well formed, reports of all else what is at fault first, and what it
accepts can be provided for. -/
theorem validate_exact (f : FlowSpec) :
    (f.validate = .ok () ↔ f.WellFormed) ∧
      (∀ fault, f.validate = .error fault ↔ f.FirstFault fault) ∧
      (f.validate = .ok () → ∀ program : ProgramId, Provided program f (.ofFlow program f)
        ((Binding.ofFlow program f).consumerGroups program f)) :=
  ⟨FlowSpec.validate_ok_iff, fun _ => FlowSpec.validate_error_iff,
    fun valid => (FlowSpec.validate_ok_iff.mp valid).provided⟩

/-! What is read from a stream is passed on to three writers. -/

def writerStage : StageSpec := ⟨"writer", 3, .empty⟩

def relayFlow : FlowSpec :=
  ⟨"relay", [⟨"reader", 1, .empty⟩, writerStage],
    [⟨.stream "purchases", "reader", "out"⟩, ⟨.stage "reader", "writer", "out"⟩]⟩

def relayId : ProgramId := .flow "default" "app" "relay"

def relayGroups : List ConsumerGroup := (Binding.ofFlow relayId relayFlow).consumerGroups relayId relayFlow

theorem relay_provided : relayFlow.validate = .ok () ∧ (relayGroups.map (·.groupId)).Nodup ∧
    writerStage ∈ relayFlow.stages ∧ relayFlow.Feeds "writer" ∧
    "queue:///app/relay/reader/out" ∈ (Binding.ofFlow relayId relayFlow).queues "writer" ∧
    (Partitioner.empty.bind relayGroups).1.partitions? "queue:///app/relay/reader/out"
      (groupId relayId "writer") = some 3 := by
  have valid : relayFlow.validate = .ok () := by decide
  have apart : (relayGroups.map (·.groupId)).Nodup := by decide +kernel
  have mem : writerStage ∈ relayFlow.stages := by decide
  have fed : relayFlow.Feeds "writer" := by decide
  have consumed : "queue:///app/relay/reader/out" ∈
      (Binding.ofFlow relayId relayFlow).queues "writer" := by decide +kernel
  have provided := (validate_exact relayFlow).2.2 valid relayId
  exact ⟨valid, apart, mem, fed, consumed,
    (provided.allotted apart .empty writerStage mem fed).2 _ consumed⟩

end
end FlowRuntime
