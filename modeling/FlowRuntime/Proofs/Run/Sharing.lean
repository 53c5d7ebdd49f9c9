import FlowRuntime.Proofs.Run.RescaleOutcome

/-!
Runs that share a partitioner. A run assigns partitions to its own stages and to no others, in
whatever order its assignments fall among those of another run; so what it has assigned last
stands, unless the other run assigns to the same entry. The entries of a stage are keyed by its
name, those of its queues by the digest of its full name as well. A full name joins names by
dots: two programs can have the same, but not if there are no dots in their names.
-/
namespace FlowRuntime
open Operation

/-! ## Assignments -/

def Call.groups : Call → List ConsumerGroup
  | .bind groups => groups
  | .repartition group => [group]
  | _ => []

def Exchange.assigned (e : Exchange) : List ConsumerGroup :=
  if e.isGranted then e.call.groups else []

def assignments (log : List Exchange) : List ConsumerGroup := log.flatMap Exchange.assigned

theorem mem_groups_of_mem_assignments {log : List Exchange} {g : ConsumerGroup}
    (mem : g ∈ assignments log) : ∃ e ∈ log, g ∈ e.call.groups := by
  obtain ⟨e, within, assigned⟩ := List.mem_flatMap.mp mem
  refine ⟨e, within, ?_⟩
  unfold Exchange.assigned at assigned
  split at assigned
  · exact assigned
  · cases assigned

namespace Partitioner
variable {p p' : Partitioner} {groups : List ConsumerGroup}

theorem granted_of_bound {answer : Outcome} (some_partitions : ∀ g ∈ groups, g.partitions ≠ 0)
    (bound : (p', answer) = p.bind groups) : answer = .ok () ∧ p' = (p.bind groups).1 := by
  have granted : (p.bind groups).2 = .ok () := bind_ok some_partitions
  rw [← granted]
  exact ⟨congrArg Prod.snd bound, congrArg Prod.fst bound⟩

theorem eq_of_takes {e : Exchange} (some_partitions : ∀ g ∈ e.call.groups, g.partitions ≠ 0)
    (taken : p.Takes e p') : p' = (p.bind e.assigned).1 := by
  obtain ⟨call, answer⟩ := e
  cases call with
  | start options => cases answer <;> exact taken
  | fanOut op targets => exact taken
  | bind groups | repartition group =>
    rcases taken with bound | ⟨rfl, e, rfl⟩
    · obtain ⟨rfl, same⟩ := granted_of_bound some_partitions bound
      exact same
    · rfl

theorem eq_of_takesAll {log : List Exchange}
    (some_partitions : ∀ e ∈ log, ∀ g ∈ e.call.groups, g.partitions ≠ 0)
    (taken : p.TakesAll log p') : p' = (p.bind (assignments log)).1 := by
  induction log generalizing p with
  | nil => exact taken
  | cons e rest ih =>
    obtain ⟨q, first, later⟩ := taken
    obtain ⟨here, others⟩ := List.forall_mem_cons.mp some_partitions
    have assigned : ∀ g ∈ e.assigned, g.partitions ≠ 0 := by
      intro g mem
      unfold Exchange.assigned at mem
      split at mem
      · exact here g mem
      · cases mem
    have split : assignments (e :: rest) = e.assigned ++ assignments rest := List.flatMap_cons
    rw [ih others later, split, bind_append assigned, eq_of_takes here first]

end Partitioner

/-! ## The groups of a run -/

/-- A group that a run of this context may ask for: one of its stages', with some partitions. -/
structure RunContext.Owns (c : RunContext) (g : ConsumerGroup) : Prop where
  declared : g.stage ∈ c.flow.stageNames
  some_partitions : g.partitions ≠ 0
  group : g = c.consumerGroup g.stage g.partitions

/-- All that a run has exchanged by some moment, while it starts or while it does what is asked. -/
inductive Exchanged (c : RunContext) : List Exchange → Prop where
  | starting {log : List Exchange} {b : Activity Outcome}
      (leads : (start (.starting c)).Leads log b) : Exchanged c log
  | busy {log log' : List Exchange} {run : Run} {request : RunRequest} {b : Activity RunAnswer}
      (reached : Reached c log run) (leads : (request.operation run).Leads log' b) :
      Exchanged c (log ++ log')

section
variable {c : RunContext} {log log' : List Exchange} {run run' : Run}

theorem Started.no_groups {openings : List Opening} {begun : List (StageKey × Handle)} {x : Outcome}
    (started : Started c openings log begun x) {e : Exchange} (mem : e ∈ log) :
    e.call.groups = [] := by
  obtain ⟨o, _, call⟩ := started.only_starts mem
  rw [call]
  rfl

theorem RunContext.owns_consumerGroups (accepted : c.flow.Accepted) :
    ∀ g ∈ c.consumerGroups, c.Owns g := by
  intro g mem
  obtain ⟨spec, within, rfl⟩ := List.mem_map.mp mem
  have declared := List.mem_of_mem_filter within
  exact ⟨List.mem_map_of_mem declared, Nat.ne_of_gt (accepted.busy spec declared), rfl⟩

theorem owns_of_start (accepted : c.flow.Accepted) {x : Outcome}
    (returned : Returns start (.starting c) log run x) :
    ∀ e ∈ log, ∀ g ∈ e.call.groups, c.Owns g := by
  have bound := c.owns_consumerGroups accepted
  intro e mem g asked
  cases returns_start returned with
  | unbound e =>
    rw [List.mem_singleton.mp mem] at asked
    exact bound g asked
  | withdrawn started report =>
    simp only [List.cons_append, List.mem_cons, List.mem_append, List.not_mem_nil, or_false] at mem
    rcases mem with rfl | within | rfl
    · exact bound g asked
    · rw [started.no_groups within] at asked
      cases asked
    · cases asked
  | complete started =>
    rcases List.mem_cons.mp mem with rfl | within
    · exact bound g asked
    · rw [started.no_groups within] at asked
      cases asked

theorem Regrouped.groups {stage : String} {targets : List (StageKey × Handle)} {target : Nat}
    {x : Outcome} (around : Regrouped c stage targets target log x) {e : Exchange} (mem : e ∈ log)
    {g : ConsumerGroup} (asked : g ∈ e.call.groups) : g = c.consumerGroup stage target := by
  cases around with
  | refused paused f =>
    simp only [List.mem_cons, List.not_mem_nil, or_false] at mem
    rcases mem with rfl | rfl
    · cases asked
    · exact List.mem_singleton.mp asked
  | done paused told resumed =>
    simp only [List.mem_cons, List.not_mem_nil, or_false] at mem
    rcases mem with rfl | rfl | rfl | rfl
    · cases asked
    · exact List.mem_singleton.mp asked
    · cases asked
    · cases asked

theorem Reshaped.groups {spec : StageSpec} {live target : Nat} {registry : Registry Handle}
    {x : Outcome} (work : Reshaped run spec live target log registry x) {e : Exchange}
    (mem : e ∈ log) {g : ConsumerGroup} (asked : g ∈ e.call.groups) :
    g = run.context.consumerGroup spec.name target := by
  cases work with
  | kept more around => exact around.groups mem asked
  | grown more around started =>
    rcases List.mem_append.mp mem with within | within
    · exact around.groups within asked
    · rw [started.no_groups within] at asked
      cases asked
  | shrunk fewer stopped around =>
    rcases List.mem_cons.mp mem with rfl | within
    · cases asked
    · exact around.groups within asked

theorem Carried.owns (context : run.context = c) (carried : Carried run log run') :
    ∀ e ∈ log, ∀ g ∈ e.call.groups, c.Owns g := by
  intro e mem g asked
  cases carried with
  | idle => cases mem
  | suspended alive report | resumed suspended report | stopped going report =>
    rw [List.mem_singleton.mp mem] at asked
    cases asked
  | @rescaled stage target spec due _ _ x course =>
    subst context
    have named : spec.name ∈ run.context.flow.stageNames :=
      List.mem_map_of_mem (FlowSpec.mem_of_stage? due.found)
    have own : g = run.context.consumerGroup spec.name target := by
      cases course with
      | complete work => exact work.groups mem asked
      | failed work report =>
        rcases List.mem_append.mp mem with within | within
        · exact work.groups within asked
        · rw [List.mem_singleton.mp within] at asked
          cases asked
    subst own
    exact ⟨named, due.some_instances, rfl⟩

theorem Reached.forall_exchanged {P : Exchange → Prop} (accepted : c.flow.Accepted)
    (start : ∀ {log run x}, Returns start (.starting c) log run x → ∀ e ∈ log, P e)
    (request : ∀ {run log run'}, run.context = c → Carried run log run' → ∀ e ∈ log, P e)
    (reached : Reached c log run) : ∀ e ∈ log, P e := by
  induction reached with
  | started returned => exact start returned
  | answered before returned ih =>
    have later := request (sound_of_accepted accepted before).context (returns_request returned)
    exact List.forall_mem_append.mpr ⟨ih, later⟩

theorem Exchanged.forall_exchanged {P : Exchange → Prop} (accepted : c.flow.Accepted)
    (start : ∀ {log run x}, Returns start (.starting c) log run x → ∀ e ∈ log, P e)
    (request : ∀ {run log run'}, run.context = c → Carried run log run' → ∀ e ∈ log, P e)
    (ran : Exchanged c log) : ∀ e ∈ log, P e := by
  -- What is under way is carried to an end, of which all but the beginning is forgotten.
  cases ran with
  | starting leads =>
    rename_i b
    obtain ⟨rest, last, x, ended, _⟩ := b.exists_refused_end
    exact (List.forall_mem_append.mp (start (leads.trans ended))).1
  | busy reached leads =>
    rename_i b
    obtain ⟨rest, last, x, ended, _⟩ := b.exists_refused_end
    have whole := (Reached.answered reached (leads.trans ended)).forall_exchanged accepted start request
    rw [← List.append_assoc] at whole
    exact (List.forall_mem_append.mp whole).1

theorem Exchanged.owns (accepted : c.flow.Accepted) (ran : Exchanged c log) :
    ∀ e ∈ log, ∀ g ∈ e.call.groups, c.Owns g :=
  ran.forall_exchanged accepted (owns_of_start accepted) fun context carried => carried.owns context

end

/-! ## Names -/

namespace ProgramId
variable {p p' : ProgramId} {stage stage' : String}

/-- The name whose digest identifies the consumer group of a stage. -/
def fullName (p : ProgramId) (stage : String) : String :=
  p.namespaceName ++ "." ++ p.application ++ "." ++ p.name ++ "." ++ stage

def Undotted (p : ProgramId) : Prop :=
  '.' ∉ p.namespaceName.toList ∧ '.' ∉ p.application.toList ∧ '.' ∉ p.name.toList

theorem stage_eq_of_fullName (same : p.fullName stage = p.fullName stage') : stage = stage' := by
  have chars := congrArg String.toList same
  simp only [fullName, String.toList_append] at chars
  exact String.toList_inj.mp (List.append_cancel_left chars)

theorem eq_of_dot_append {a b rest rest' : List Char} (undotted : '.' ∉ a) (undotted' : '.' ∉ b)
    (same : a ++ '.' :: rest = b ++ '.' :: rest') : a = b ∧ rest = rest' := by
  induction a generalizing b with
  | nil =>
    cases b with
    | nil => exact ⟨rfl, (List.cons.inj same).2⟩
    | cons d b =>
      have here := (List.cons.inj same).1
      exact absurd (here ▸ List.mem_cons_self) undotted'
  | cons d a ih =>
    cases b with
    | nil =>
      have here := (List.cons.inj same).1
      exact absurd (here ▸ List.mem_cons_self) undotted
    | cons d' b =>
      obtain ⟨here, later⟩ := List.cons.inj same
      rw [List.mem_cons, not_or] at undotted undotted'
      obtain ⟨first, others⟩ := ih undotted.2 undotted'.2 later
      exact ⟨by rw [here, first], others⟩

theorem eq_of_fullName (undotted : p.Undotted) (undotted' : p'.Undotted)
    (same : p.fullName stage = p'.fullName stage') :
    p.namespaceName = p'.namespaceName ∧ p.application = p'.application ∧ p.name = p'.name := by
  have chars := congrArg String.toList same
  simp only [fullName, String.toList_append, List.append_assoc] at chars
  obtain ⟨first, chars⟩ := eq_of_dot_append undotted.1 undotted'.1 chars
  obtain ⟨second, chars⟩ := eq_of_dot_append undotted.2.1 undotted'.2.1 chars
  obtain ⟨third, _⟩ := eq_of_dot_append undotted.2.2 undotted'.2.2 chars
  exact ⟨String.toList_inj.mp first, String.toList_inj.mp second, String.toList_inj.mp third⟩

end ProgramId

def Seahash.TellsApart (names : List String) : Prop :=
  ∀ a ∈ names, ∀ b ∈ names, ofText a = ofText b → a = b

instance (names : List String) : Decidable (Seahash.TellsApart names) :=
  inferInstanceAs (Decidable (∀ a ∈ names, ∀ b ∈ names, Seahash.ofText a = Seahash.ofText b → a = b))

namespace RunContext

def fullNames (c : RunContext) : List String := c.flow.stageNames.map c.run.program.fullName

/-- Whether the queue is also consumed by a stage of the other run that has the same full name. -/
def Contended (c other : RunContext) (stage : String) (queue : QueueName) : Prop :=
  ∃ stage' ∈ other.flow.stageNames,
    other.run.program.fullName stage' = c.run.program.fullName stage ∧
      queue ∈ other.binding.queues stage'

theorem flow_of_ofProgram {program : Program} {options : RunOptions} {c : RunContext}
    (made : ofProgram program options = .ok c) :
    c.run.program = program.id ∧ program.id.programType = .flow := by
  unfold ofProgram at made
  split at made
  · cases made
  · rename_i flow
    split at made
    · cases made
    · split at made
      · cases made
      · cases made
        exact ⟨rfl, by simpa using flow⟩

end RunContext

/-! ## Two runs -/

inductive Interleaved : List ConsumerGroup → List ConsumerGroup → List ConsumerGroup → Prop where
  | nil : Interleaved [] [] []
  | left {g : ConsumerGroup} {own others joint : List ConsumerGroup}
      (rest : Interleaved own others joint) : Interleaved (g :: own) others (g :: joint)
  | right {g : ConsumerGroup} {own others joint : List ConsumerGroup}
      (rest : Interleaved own others joint) : Interleaved own (g :: others) (g :: joint)

namespace Interleaved
variable {own others joint : List ConsumerGroup}

theorem mem (merged : Interleaved own others joint) {g : ConsumerGroup} (within : g ∈ joint) :
    g ∈ own ∨ g ∈ others := by
  induction merged with
  | nil => cases within
  | left rest ih =>
    rcases List.mem_cons.mp within with rfl | later
    · exact .inl List.mem_cons_self
    · exact (ih later).imp_left (List.mem_cons_of_mem _)
  | right rest ih =>
    rcases List.mem_cons.mp within with rfl | later
    · exact .inr List.mem_cons_self
    · exact (ih later).imp_right (List.mem_cons_of_mem _)

theorem lastSet_eq (merged : Interleaved own others joint) {kind : ConsumerGroup → Bool}
    (never : ∀ g ∈ others, kind g = false) : lastSet kind joint = lastSet kind own := by
  induction merged with
  | nil => rfl
  | left rest ih => rw [lastSet, lastSet, ih never]
  | right rest ih =>
    obtain ⟨here, later⟩ := List.forall_mem_cons.mp never
    rw [lastSet, ih later, here]
    simp

end Interleaved

/-- What two runs that share a partitioner leave to the first: each of its entries that the other
cannot claim has what the run has set last, as if it had been alone. -/
structure Undisturbed (c other : RunContext) (own joint : List ConsumerGroup) : Prop where
  stages : ∀ stage, stage ∉ other.flow.stageNames →
    (Partitioner.empty.bind joint).1.stagePartitions? stage = lastSet (·.stage = stage) own ∧
      (Partitioner.empty.bind own).1.stagePartitions? stage = lastSet (·.stage = stage) own
  queues : ∀ stage ∈ c.flow.stageNames, ∀ queue ∈ c.binding.queues stage,
    ¬ c.Contended other stage queue →
      (Partitioner.empty.bind joint).1.partitions? queue (groupId c.run.program stage)
          = lastSet (·.stage = stage) own ∧
        (Partitioner.empty.bind own).1.partitions? queue (groupId c.run.program stage)
          = lastSet (·.stage = stage) own
  undotted : c.run.program ≠ other.run.program → c.run.program.Undotted →
    other.run.program.Undotted → ∀ stage queue, ¬ c.Contended other stage queue

section
variable {c other : RunContext} {own others joint : List ConsumerGroup}

theorem RunContext.Owns.kind_iff {g : ConsumerGroup} (owns : c.Owns g)
    (apart : Seahash.TellsApart c.fullNames) {stage : String} (declared : stage ∈ c.flow.stageNames)
    {queue : QueueName} (consumed : queue ∈ c.binding.queues stage) :
    (queue ∈ g.queues ∧ g.groupId = groupId c.run.program stage) ↔ g.stage = stage := by
  have group := owns.group
  constructor
  · rintro ⟨_, same⟩
    rw [group] at same
    have names := apart _ (List.mem_map_of_mem owns.declared) _ (List.mem_map_of_mem declared) same
    exact ProgramId.stage_eq_of_fullName names
  · intro same
    rw [group, same]
    exact ⟨consumed, rfl⟩

theorem undisturbed (apart : Seahash.TellsApart (c.fullNames ++ other.fullNames))
    (flows : c.run.program.programType = other.run.program.programType)
    (owned : ∀ g ∈ own, c.Owns g) (foreign : ∀ g ∈ others, other.Owns g)
    (merged : Interleaved own others joint) : Undisturbed c other own joint := by
  have busy : ∀ g ∈ own, g.partitions ≠ 0 := fun g mem => (owned g mem).some_partitions
  have busyAll : ∀ g ∈ joint, g.partitions ≠ 0 := by
    intro g mem
    rcases merged.mem mem with mine | theirs
    · exact busy g mine
    · exact (foreign g theirs).some_partitions
  constructor
  · intro stage undeclared
    have never : ∀ g ∈ others, decide (g.stage = stage) = false := by
      intro g mem
      have declared := (foreign g mem).declared
      exact decide_eq_false fun same => undeclared (same ▸ declared)
    rw [Partitioner.stagePartitions?_bind busyAll, Partitioner.stagePartitions?_bind busy,
      merged.lastSet_eq never]
    exact ⟨Option.or_none, Option.or_none⟩
  · intro stage declared queue consumed free
    have mine : Seahash.TellsApart c.fullNames := fun a ha b hb =>
      apart a (List.mem_append_left _ ha) b (List.mem_append_left _ hb)
    have never : ∀ g ∈ others,
        decide (queue ∈ g.queues ∧ g.groupId = groupId c.run.program stage) = false := by
      intro g mem
      have owns := foreign g mem
      apply decide_eq_false
      rintro ⟨within, same⟩
      rw [owns.group] at within same
      have names := apart _ (List.mem_append_right _ (List.mem_map_of_mem owns.declared)) _
        (List.mem_append_left _ (List.mem_map_of_mem declared)) same
      exact free ⟨g.stage, owns.declared, names, within⟩
    have kinds : lastSet (fun g => queue ∈ g.queues ∧ g.groupId = groupId c.run.program stage) own
        = lastSet (·.stage = stage) own := by
      apply lastSet_congr
      intro g mem
      simp only [(owned g mem).kind_iff mine declared consumed]
    rw [Partitioner.partitions?_bind busyAll, Partitioner.partitions?_bind busy,
      merged.lastSet_eq never, kinds]
    exact ⟨Option.or_none, Option.or_none⟩
  · rintro distinct undotted undotted' stage queue ⟨stage', _, names, _⟩
    obtain ⟨first, second, third⟩ := ProgramId.eq_of_fullName undotted' undotted names
    apply distinct
    cases same : c.run.program
    cases same' : other.run.program
    simp_all

end

theorem Exchanged.owns_assignments {c : RunContext} {log : List Exchange}
    {own : List ConsumerGroup} (accepted : c.flow.Accepted) (ran : Exchanged c log)
    (so_far : own <+: assignments log) : ∀ g ∈ own, c.Owns g := by
  intro g mem
  obtain ⟨e, within, asked⟩ := mem_groups_of_mem_assignments (so_far.subset mem)
  exact ran.owns accepted e within g asked

/-- Two runs of accepted flows over one partitioner, at any moment and in any order of their
assignments, be it in the middle of a call. -/
theorem undisturbed_of_ofProgram {program program' : Program} {options options' : RunOptions}
    {c other : RunContext} (made : RunContext.ofProgram program options = .ok c)
    (made' : RunContext.ofProgram program' options' = .ok other)
    {log log' : List Exchange} (ran : Exchanged c log) (ran' : Exchanged other log')
    (apart : Seahash.TellsApart (c.fullNames ++ other.fullNames))
    {own others joint : List ConsumerGroup} (so_far : own <+: assignments log)
    (so_far' : others <+: assignments log') (merged : Interleaved own others joint) :
    (∀ p, Partitioner.empty.TakesAll log p →
      p = (Partitioner.empty.bind (assignments log)).1) ∧ Undisturbed c other own joint := by
  have accepted := RunContext.accepted_of_ofProgram made
  have accepted' := RunContext.accepted_of_ofProgram made'
  obtain ⟨here, flow⟩ := RunContext.flow_of_ofProgram made
  obtain ⟨there, flow'⟩ := RunContext.flow_of_ofProgram made'
  constructor
  · intro p taken
    exact Partitioner.eq_of_takesAll
      (fun e mem g asked => (ran.owns accepted e mem g asked).some_partitions) taken
  · exact undisturbed apart (by rw [here, there, flow, flow'])
      (ran.owns_assignments accepted so_far) (ran'.owns_assignments accepted' so_far') merged

/-! A stage consumes a stream, once in application `c` of namespace `a.b`, where it has one
instance, and once in application `b.c` of namespace `a`, where it has two. -/

def sharedFlow (instances : UInt32) : FlowSpec :=
  ⟨"flow", [⟨"stage", instances, .empty⟩], [⟨.stream "events", "stage", "out"⟩]⟩

def dottedProgram : Program :=
  ⟨.flow "a.b" "c" "flow", ⟨"a.b", "c", [sharedFlow 1]⟩⟩

def namesakeProgram : Program :=
  ⟨.flow "a" "b.c" "flow", ⟨"a", "b.c", [sharedFlow 2]⟩⟩

def dottedContext : RunContext :=
  ⟨⟨dottedProgram.id, loneOptions.runId⟩, sharedFlow 1, loneOptions⟩

def namesakeContext : RunContext :=
  ⟨⟨namesakeProgram.id, loneOptions.runId⟩, sharedFlow 2, loneOptions⟩

def dottedLog : List Exchange :=
  [⟨.bind dottedContext.consumerGroups, .ok ()⟩,
    ⟨.start (dottedContext.instanceOptions ⟨"stage", 1, .empty⟩ 0 1), .ok (0 : Handle)⟩]

def namesakeLog : List Exchange :=
  [⟨.bind namesakeContext.consumerGroups, .ok ()⟩,
    ⟨.start (namesakeContext.instanceOptions ⟨"stage", 2, .empty⟩ 0 2), .ok (0 : Handle)⟩,
    ⟨.start (namesakeContext.instanceOptions ⟨"stage", 2, .empty⟩ 1 2), .ok (1 : Handle)⟩]

theorem dotted_exchanged : Exchanged dottedContext dottedLog :=
  .starting (.next _ (.next _ (.here _)))

theorem namesake_exchanged : Exchanged namesakeContext namesakeLog :=
  .starting (.next _ (.next _ (.next _ (.here _))))

theorem lone_exchanged : Exchanged loneContext (loneLog ++ loneGrowth) :=
  @Exchanged.busy _ _ _ _ (.changeInstances "stage" 2) _ lone_reached
    (.next _ (.next _ (.next _ (.next _ (.next _ (.here _))))))

theorem dotted_apart : Seahash.TellsApart (dottedContext.fullNames ++ loneContext.fullNames) := by
  decide +kernel

def namesakesTogether : Partitioner :=
  (Partitioner.empty.bind (assignments dottedLog ++ assignments namesakeLog)).1

def loneTogether : Partitioner :=
  (Partitioner.empty.bind (assignments dottedLog ++ assignments (loneLog ++ loneGrowth))).1

/-- The digest is not to blame: the stages have one full name. A stage that consumes nothing gets
in the way by its name alone, when its number of instances is changed. -/
theorem namesakes_disturb :
    (RunContext.ofProgram dottedProgram loneOptions = .ok dottedContext ∧
      RunContext.ofProgram namesakeProgram loneOptions = .ok namesakeContext ∧
      RunContext.ofProgram loneProgram loneOptions = .ok loneContext) ∧
    (dottedProgram.id ≠ namesakeProgram.id ∧ dottedProgram.id ≠ loneProgram.id) ∧
    (Seahash.TellsApart (dottedContext.fullNames ++ namesakeContext.fullNames) ∧
      Seahash.TellsApart (dottedContext.fullNames ++ loneContext.fullNames)) ∧
    (Exchanged dottedContext dottedLog ∧ Exchanged namesakeContext namesakeLog ∧
      Exchanged loneContext (loneLog ++ loneGrowth)) ∧
    QueueName.ofStream "events" ∈ dottedContext.binding.queues "stage" ∧
    lastSet (·.stage = "stage") (assignments dottedLog) = some 1 ∧
    (namesakesTogether.stagePartitions? "stage" = some 2 ∧
      namesakesTogether.partitions? (.ofStream "events") (groupId dottedProgram.id "stage")
        = some 2) ∧
    loneTogether.stagePartitions? "stage" = some 2 :=
  ⟨⟨rfl, rfl, rfl⟩, ⟨by decide, by decide⟩, ⟨by decide +kernel, dotted_apart⟩,
    ⟨dotted_exchanged, namesake_exchanged, lone_exchanged⟩, by decide +kernel, by decide +kernel,
    ⟨by decide +kernel, by decide +kernel⟩, by decide +kernel⟩

/-! In application `c` the stage may have one behind it, with two instances, of which the other flow
knows nothing. While its queues are being bound, the other run sets its own stage to two. -/

def pairedFlow : FlowSpec :=
  ⟨"flow", [⟨"stage", 1, .empty⟩, ⟨"sink", 2, .empty⟩],
    [⟨.stream "events", "stage", "out"⟩, ⟨.stage "stage", "sink", "out"⟩]⟩

def pairedProgram : Program :=
  ⟨.flow "a.b" "c" "flow", ⟨"a.b", "c", [pairedFlow]⟩⟩

def pairedContext : RunContext :=
  ⟨⟨pairedProgram.id, loneOptions.runId⟩, pairedFlow, loneOptions⟩

def pairedLog : List Exchange :=
  [⟨.bind pairedContext.consumerGroups, .ok ()⟩,
    ⟨.start (pairedContext.instanceOptions ⟨"stage", 1, .empty⟩ 0 1), .ok (0 : Handle)⟩,
    ⟨.start (pairedContext.instanceOptions ⟨"sink", 2, .empty⟩ 0 2), .ok (1 : Handle)⟩,
    ⟨.start (pairedContext.instanceOptions ⟨"sink", 2, .empty⟩ 1 2), .ok (2 : Handle)⟩]

def pairedTogether : List ConsumerGroup :=
  [pairedContext.consumerGroup "stage" 1, loneContext.consumerGroup "stage" 2,
    pairedContext.consumerGroup "sink" 2]

theorem paired_made : RunContext.ofProgram pairedProgram loneOptions = .ok pairedContext := rfl

theorem paired_exchanged : Exchanged pairedContext pairedLog :=
  .starting (.next _ (.next _ (.next _ (.next _ (.here _)))))

theorem paired_apart : Seahash.TellsApart (pairedContext.fullNames ++ loneContext.fullNames) := by
  decide +kernel

theorem paired_merged :
    Interleaved (assignments pairedLog) (assignments (loneLog ++ loneGrowth)) pairedTogether := by
  have own : assignments pairedLog =
      [pairedContext.consumerGroup "stage" 1, pairedContext.consumerGroup "sink" 2] := by
    decide +kernel
  have others : assignments (loneLog ++ loneGrowth) = [loneContext.consumerGroup "stage" 2] := by
    decide +kernel
  rw [own, others]
  exact .left (.right (.left .nil))

theorem dotted_undisturbed :
    RunContext.ofProgram pairedProgram loneOptions = .ok pairedContext ∧
      RunContext.ofProgram loneProgram loneOptions = .ok loneContext ∧
      (Exchanged pairedContext pairedLog ∧ Exchanged loneContext (loneLog ++ loneGrowth)) ∧
      ("sink" ∈ pairedContext.flow.stageNames ∧ "sink" ∉ loneContext.flow.stageNames) ∧
      Undisturbed pairedContext loneContext (assignments pairedLog) pairedTogether ∧
      (Partitioner.empty.bind pairedTogether).1.stagePartitions? "sink" = some 2 := by
  have undisturbed := (undisturbed_of_ofProgram paired_made lone_made paired_exchanged
    lone_exchanged paired_apart List.prefix_rfl List.prefix_rfl paired_merged).2
  have unknown : "sink" ∉ loneContext.flow.stageNames := by decide
  have last : lastSet (·.stage = "sink") (assignments pairedLog) = some 2 := by decide +kernel
  exact ⟨paired_made, lone_made, ⟨paired_exchanged, lone_exchanged⟩, ⟨by decide, unknown⟩,
    undisturbed, (undisturbed.stages "sink" unknown).1.trans last⟩

end FlowRuntime
