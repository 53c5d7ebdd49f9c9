import FlowRuntime.Proofs.SortedMap
import FlowRuntime.Proofs.Run.Course
import FlowRuntime.Queue.Partitioner

/-!
The partitioner in memory. An assignment is found under each queue of its group and
under its stage, and entries of other groups, queues and stages stay as they are; after
several, an entry shows what was last assigned to it. A run asks for assignments by calls
of which some never get to the partitioner; those that do are answered by it.
-/
namespace FlowRuntime

/-! ### The last of some assignments -/

def lastSet (kind : ConsumerGroup → Bool) : List ConsumerGroup → Option Nat
  | [] => none
  | g :: rest => (lastSet kind rest).or (if kind g then some g.partitions else none)

theorem lastSet_congr {kind kind' : ConsumerGroup → Bool} {made : List ConsumerGroup}
    (same : ∀ g ∈ made, kind g = kind' g) : lastSet kind made = lastSet kind' made := by
  induction made with
  | nil => rfl
  | cons g rest ih =>
    obtain ⟨here, later⟩ := List.forall_mem_cons.mp same
    rw [lastSet, lastSet, ih later, here]

theorem lastSet_eq_none {kind : ConsumerGroup → Bool} {made : List ConsumerGroup} :
    lastSet kind made = none ↔ ∀ g ∈ made, kind g = false := by
  induction made with
  | nil => simp [lastSet]
  | cons g rest ih =>
    rw [lastSet, Option.or_eq_none_iff, ih, List.forall_mem_cons, and_comm]
    simp

theorem exists_of_lastSet {kind : ConsumerGroup → Bool} {made : List ConsumerGroup} {count : Nat}
    (set : lastSet kind made = some count) : ∃ g ∈ made, kind g = true ∧ g.partitions = count := by
  induction made with
  | nil => cases set
  | cons g rest ih =>
    rw [lastSet, Option.or_eq_some_iff] at set
    rcases set with later | ⟨_, here⟩
    · obtain ⟨g', mem, own⟩ := ih later
      exact ⟨g', List.mem_cons_of_mem _ mem, own⟩
    · by_cases own : kind g
      · rw [if_pos own] at here
        exact ⟨g, List.mem_cons_self, own, Option.some.inj here⟩
      · rw [if_neg own] at here
        cases here

theorem lastSet_of_only {kind : ConsumerGroup → Bool} {made : List ConsumerGroup}
    {g : ConsumerGroup} (mem : g ∈ made) (own : kind g = true)
    (only : ∀ g' ∈ made, kind g' = true → g' = g) : lastSet kind made = some g.partitions := by
  cases set : lastSet kind made with
  | none =>
    have never := lastSet_eq_none.mp set g mem
    rw [own] at never
    cases never
  | some count =>
    obtain ⟨g', mem', own', rfl⟩ := exists_of_lastSet set
    rw [only g' mem' own']

namespace Partitioner

/-! ### One assignment, and several -/

theorem partitions?_setQueues (group : UInt64) (count : Nat) (queues : List QueueName)
    (p : Partitioner) (queue : QueueName) (group' : UInt64) :
    partitions? ⟨queues.foldl (setQueue group count) p.queues, p.stages⟩ queue group' =
      if queue ∈ queues ∧ group' = group then some count else p.partitions? queue group' := by
  induction queues generalizing p with
  | nil => simp
  | cons head rest ih =>
    have step : partitions? ⟨setQueue group count p.queues head, p.stages⟩ queue group' =
        if queue = head ∧ group' = group then some count else p.partitions? queue group' := by
      unfold partitions? setQueue
      by_cases here : queue = head
      · subst here
        cases p.queues.get? queue <;> by_cases same : group' = group <;>
          simp [SortedMap.get?_insert, same]
      · simp [SortedMap.get?_insert, here]
    have onward := ih ⟨setQueue group count p.queues head, p.stages⟩
    rw [List.foldl_cons]
    apply onward.trans
    rw [step]
    by_cases here : queue = head <;> by_cases later : queue ∈ rest <;>
      by_cases same : group' = group <;> simp [here, later, same]

section
variable {p : Partitioner} {g : ConsumerGroup}

theorem repartition_eq (some_partitions : g.partitions ≠ 0) :
    p.repartition g = (⟨g.queues.foldl (setQueue g.groupId g.partitions) p.queues,
      p.stages.insert g.stage g.partitions⟩, .ok ()) := by
  simp [repartition, bind, assign, some_partitions]

theorem stagePartitions?_repartition (some_partitions : g.partitions ≠ 0) (stage : String) :
    (p.repartition g).1.stagePartitions? stage =
      if stage = g.stage then some g.partitions else p.stagePartitions? stage := by
  rw [repartition_eq some_partitions]
  exact SortedMap.get?_insert _ _ _ _

theorem partitions?_repartition (some_partitions : g.partitions ≠ 0) (queue : QueueName)
    (group : UInt64) :
    (p.repartition g).1.partitions? queue group =
      if queue ∈ g.queues ∧ group = g.groupId then some g.partitions
      else p.partitions? queue group := by
  rw [repartition_eq some_partitions]
  exact partitions?_setQueues g.groupId g.partitions g.queues p queue group

end

section
variable {p : Partitioner} {groups : List ConsumerGroup}

theorem bind_cons {g : ConsumerGroup} (some_partitions : g.partitions ≠ 0) :
    p.bind (g :: groups) = (p.repartition g).1.bind groups := by
  rw [repartition_eq some_partitions, bind, assign, if_neg some_partitions]

theorem bind_ok (some_partitions : ∀ g ∈ groups, g.partitions ≠ 0) : (p.bind groups).2 = .ok () := by
  induction groups generalizing p with
  | nil => rfl
  | cons g rest ih =>
    obtain ⟨first, others⟩ := List.forall_mem_cons.mp some_partitions
    rw [bind_cons first]
    exact ih others

theorem bind_append (some_partitions : ∀ g ∈ groups, g.partitions ≠ 0)
    (others : List ConsumerGroup) : p.bind (groups ++ others) = (p.bind groups).1.bind others := by
  induction groups generalizing p with
  | nil => rfl
  | cons g rest ih =>
    obtain ⟨first, later⟩ := List.forall_mem_cons.mp some_partitions
    rw [List.cons_append, bind_cons first, bind_cons first, ih later]

/-- A reading which every assignment either sets to its count or leaves as it was shows what was
last set. -/
theorem reading_bind (reading : Partitioner → Option Nat) {kind : ConsumerGroup → Bool}
    (step : ∀ (p : Partitioner) (g : ConsumerGroup), g.partitions ≠ 0 →
      reading (p.repartition g).1 = if kind g then some g.partitions else reading p)
    (some_partitions : ∀ g ∈ groups, g.partitions ≠ 0) :
    reading (p.bind groups).1 = (lastSet kind groups).or (reading p) := by
  induction groups generalizing p with
  | nil => rfl
  | cons g rest ih =>
    obtain ⟨first, others⟩ := List.forall_mem_cons.mp some_partitions
    rw [bind_cons first, ih others, step p g first, lastSet, Option.or_assoc]
    by_cases own : kind g <;> simp [own]

theorem stagePartitions?_bind (some_partitions : ∀ g ∈ groups, g.partitions ≠ 0) (stage : String) :
    (p.bind groups).1.stagePartitions? stage
      = (lastSet (·.stage = stage) groups).or (p.stagePartitions? stage) := by
  apply reading_bind (·.stagePartitions? stage) _ some_partitions
  intro p g busy
  rw [stagePartitions?_repartition busy]
  simp [eq_comm (a := stage)]

theorem partitions?_bind (some_partitions : ∀ g ∈ groups, g.partitions ≠ 0) (queue : QueueName)
    (group : UInt64) :
    (p.bind groups).1.partitions? queue group
      = (lastSet (fun g => queue ∈ g.queues ∧ g.groupId = group) groups).or
          (p.partitions? queue group) := by
  apply reading_bind (·.partitions? queue group) _ some_partitions
  intro p g busy
  rw [partitions?_repartition busy]
  simp [eq_comm (a := group)]

theorem partitions?_bind_of_mem (some_partitions : ∀ g ∈ groups, g.partitions ≠ 0)
    (nodup : (groups.map (·.groupId)).Nodup) {g : ConsumerGroup} (mem : g ∈ groups)
    {queue : QueueName} (consumed : queue ∈ g.queues) :
    (p.bind groups).1.partitions? queue g.groupId = some g.partitions := by
  have only : ∀ g' ∈ groups,
      decide (queue ∈ g'.queues ∧ g'.groupId = g.groupId) = true → g' = g := by
    intro g' mem' own
    exact List.inj_on_of_nodup_map nodup mem' mem (of_decide_eq_true own).2
  rw [partitions?_bind some_partitions, lastSet_of_only mem (by simp [consumed]) only, Option.some_or]

end

/-! ### Through the calls of a run -/

/-- The partitioner before and after an exchange: a call for an assignment is answered by it, or
fails before it gets there. -/
def Takes (p : Partitioner) : Exchange → Partitioner → Prop
  | ⟨.bind groups, answer⟩, p' =>
    (p', answer) = p.bind groups ∨ (p' = p ∧ ∃ e, answer = .error e)
  | ⟨.repartition group, answer⟩, p' =>
    (p', answer) = p.repartition group ∨ (p' = p ∧ ∃ e, answer = .error e)
  | _, p' => p' = p

def TakesAll (p : Partitioner) : List Exchange → Partitioner → Prop
  | [], p' => p' = p
  | e :: rest, p' => ∃ q, p.Takes e q ∧ q.TakesAll rest p'

theorem takesAll_append {p p' : Partitioner} {log log' : List Exchange} :
    p.TakesAll (log ++ log') p' ↔ ∃ q, p.TakesAll log q ∧ q.TakesAll log' p' := by
  induction log generalizing p with
  | nil => simp [TakesAll]
  | cons e rest ih =>
    simp only [List.cons_append, TakesAll, ih]
    constructor
    · rintro ⟨q, first, r, second, third⟩
      exact ⟨r, ⟨q, first, second⟩, third⟩
    · rintro ⟨r, ⟨q, first, second⟩, third⟩
      exact ⟨q, first, r, second, third⟩

end Partitioner
end FlowRuntime
