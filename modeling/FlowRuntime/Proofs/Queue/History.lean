import FlowRuntime.Proofs.Partitioner
import Mathlib.Data.List.TakeWhile

/-!
What a history of calls leaves in a partitioner. A call makes the assignments before the first
that is refused, and an entry shows what was assigned to it last, in whichever call that was. As
no queue is kept without a group, partitioners which show the same are the same; so a call that
is made once more at once changes nothing, also if it was refused.
-/
namespace FlowRuntime.Partitioner

/-! ### What is kept -/

def Occupied (p : Partitioner) : Prop :=
  ∀ queue counts, p.queues.get? queue = some counts → ∃ group, counts.get? group ≠ none

theorem Occupied.get?_eq_none_iff {p : Partitioner} (occupied : Occupied p) {queue : QueueName} :
    p.queues.get? queue = none ↔ ∀ group, p.partitions? queue group = none := by
  constructor
  · intro absent group
    rw [partitions?, absent, Option.bind_none]
  · intro bare
    by_contra kept
    obtain ⟨counts, kept⟩ := Option.ne_none_iff_exists'.mp kept
    obtain ⟨group, held⟩ := occupied queue counts kept
    apply held
    rw [← bare group, partitions?, kept, Option.bind_some]

theorem Occupied.ext {p q : Partitioner} (occupied : Occupied p) (occupied' : Occupied q)
    (queues : ∀ queue group, p.partitions? queue group = q.partitions? queue group)
    (stages : ∀ stage, p.stagePartitions? stage = q.stagePartitions? stage) : p = q := by
  have same_queues : p.queues = q.queues := by
    apply SortedMap.ext_get?
    intro queue
    have both : p.queues.get? queue = none ↔ q.queues.get? queue = none := by
      rw [occupied.get?_eq_none_iff, occupied'.get?_eq_none_iff]
      simp only [queues]
    cases kept : p.queues.get? queue with
    | none => exact (both.mp kept).symm
    | some counts =>
      have kept' : q.queues.get? queue ≠ none := by
        rw [← both.ne, kept]
        exact Option.some_ne_none counts
      obtain ⟨counts', kept'⟩ := Option.ne_none_iff_exists'.mp kept'
      rw [kept', Option.some_inj]
      apply SortedMap.ext_get?
      intro group
      have shown := queues queue group
      simpa only [partitions?, kept, kept', Option.bind_some] using shown
  have same_stages : p.stages = q.stages := SortedMap.ext_get? stages
  cases p
  cases q
  cases same_queues
  cases same_stages
  rfl

theorem Occupied.empty : Occupied empty := by
  intro queue counts kept
  cases kept

theorem Occupied.setQueues {p : Partitioner} (occupied : Occupied p) (group : UInt64) (count : Nat)
    (queues : List QueueName) (stages : SortedMap String Nat) :
    Occupied ⟨queues.foldl (setQueue group count) p.queues, stages⟩ := by
  induction queues generalizing p with
  | nil => exact occupied
  | cons head rest ih =>
    have step : Occupied ⟨setQueue group count p.queues head, p.stages⟩ := by
      intro queue counts kept
      simp only [setQueue, SortedMap.get?_insert] at kept
      split at kept
      · refine ⟨group, ?_⟩
        rw [← Option.some.inj kept, SortedMap.get?_insert_self]
        exact Option.some_ne_none count
      · exact occupied queue counts kept
    exact ih step

theorem Occupied.bind {p : Partitioner} (occupied : Occupied p) (groups : List ConsumerGroup) :
    Occupied (p.bind groups).1 := by
  induction groups generalizing p with
  | nil => exact occupied
  | cons g rest ih =>
    by_cases idle : g.partitions = 0
    · simpa only [Partitioner.bind, assign, if_pos idle] using occupied
    · rw [bind_cons idle, repartition_eq idle]
      exact ih (occupied.setQueues g.groupId g.partitions g.queues _)

/-! ### Refusals -/

/-- What is assigned of some groups: those before the first without partitions. -/
def accepted (groups : List ConsumerGroup) : List ConsumerGroup :=
  groups.takeWhile (·.partitions ≠ 0)

theorem accepted_busy {groups : List ConsumerGroup} : ∀ g ∈ accepted groups, g.partitions ≠ 0 := by
  intro g mem
  simpa using List.mem_takeWhile_imp mem

theorem bind_eq (p : Partitioner) (groups : List ConsumerGroup) :
    p.bind groups = ((p.bind (accepted groups)).1,
      match groups.find? (·.partitions = 0) with
      | none => .ok ()
      | some g => .error (.noPartitions g.stage)) := by
  induction groups generalizing p with
  | nil => rfl
  | cons g rest ih =>
    by_cases idle : g.partitions = 0
    · simp [accepted, bind, assign, idle]
    · have onward : accepted (g :: rest) = g :: accepted rest := by simp [accepted, idle]
      rw [onward, bind_cons idle, bind_cons idle, ih, List.find?_cons_of_neg (by simpa using idle)]

theorem refused_iff {p : Partitioner} {groups : List ConsumerGroup} {e : Failure} :
    (p.bind groups).2 = .error e ↔
      ∃ g, groups.find? (·.partitions = 0) = some g ∧ e = .noPartitions g.stage := by
  rw [bind_eq]
  cases groups.find? (·.partitions = 0) with
  | none => simp
  | some g => simp [eq_comm]

theorem bind_fails_iff {p : Partitioner} {groups : List ConsumerGroup} :
    (∃ e, (p.bind groups).2 = .error e) ↔ ∃ g ∈ groups, g.partitions = 0 := by
  simp only [refused_iff]
  constructor
  · rintro ⟨e, g, found, _⟩
    exact ⟨g, List.mem_of_find?_eq_some found, by simpa using List.find?_some found⟩
  · intro ⟨g, mem, idle⟩
    have some_found : (groups.find? (·.partitions = 0)).isSome :=
      List.find?_isSome.mpr ⟨g, mem, decide_eq_true idle⟩
    obtain ⟨first, found⟩ := Option.isSome_iff_exists.mp some_found
    exact ⟨_, first, found, rfl⟩

section
variable (p : Partitioner) (groups : List ConsumerGroup)

theorem partitions?_accepted (queue : QueueName) (group : UInt64) :
    (p.bind groups).1.partitions? queue group
      = (lastSet (fun g => queue ∈ g.queues ∧ g.groupId = group) (accepted groups)).or
          (p.partitions? queue group) := by
  rw [bind_eq, partitions?_bind accepted_busy]

theorem stagePartitions?_accepted (stage : String) :
    (p.bind groups).1.stagePartitions? stage
      = (lastSet (·.stage = stage) (accepted groups)).or (p.stagePartitions? stage) := by
  rw [bind_eq, stagePartitions?_bind accepted_busy]

theorem bind_again {p : Partitioner} (occupied : Occupied p) :
    (p.bind groups).1.bind groups = p.bind groups := by
  have once := occupied.bind groups
  have same : ((p.bind groups).1.bind groups).1 = (p.bind groups).1 := by
    apply (once.bind groups).ext once
    · intro queue group
      rw [partitions?_accepted _ groups, partitions?_accepted p groups, ← Option.or_assoc,
        Option.or_self]
    · intro stage
      rw [stagePartitions?_accepted _ groups, stagePartitions?_accepted p groups,
        ← Option.or_assoc, Option.or_self]
  have answer : ((p.bind groups).1.bind groups).2 = (p.bind groups).2 := by
    rw [bind_eq (p.bind groups).1, bind_eq p]
  exact Prod.ext same answer

end

/-! ### Histories -/

inductive Call where
  | bind (groups : List ConsumerGroup)
  | repartition (group : ConsumerGroup)

def Call.groups : Call → List ConsumerGroup
  | bind groups => groups
  | repartition group => [group]

def perform (p : Partitioner) : Call → Partitioner × Except Failure Unit
  | .bind groups => p.bind groups
  | .repartition group => p.repartition group

def after (p : Partitioner) (calls : List Call) : Partitioner :=
  calls.foldl (fun p call => (p.perform call).1) p

def made (calls : List Call) : List ConsumerGroup :=
  calls.flatMap fun call => accepted call.groups

theorem perform_eq (p : Partitioner) (call : Call) : p.perform call = p.bind call.groups := by
  cases call with
  | bind groups => rfl
  | repartition group => rfl

theorem made_busy (calls : List Call) : ∀ g ∈ made calls, g.partitions ≠ 0 := by
  intro g mem
  obtain ⟨call, _, assigned⟩ := List.mem_flatMap.mp mem
  exact accepted_busy g assigned

theorem lastSet_made_ne_zero {kind : ConsumerGroup → Bool} {calls : List Call} :
    lastSet kind (made calls) ≠ some 0 := by
  intro set
  obtain ⟨g, mem, _, idle⟩ := exists_of_lastSet set
  exact made_busy calls g mem idle

theorem after_eq (p : Partitioner) (calls : List Call) :
    p.after calls = (p.bind (made calls)).1 := by
  induction calls generalizing p with
  | nil => rfl
  | cons call rest ih =>
    have first : (p.perform call).1 = (p.bind (accepted call.groups)).1 := by
      rw [perform_eq, bind_eq]
    have flat : made (call :: rest) = accepted call.groups ++ made rest := List.flatMap_cons
    rw [flat, bind_append accepted_busy, ← first, ← ih]
    rfl

theorem repartition_of_refused {p : Partitioner} {g : ConsumerGroup} {e : Failure}
    (refused : (p.repartition g).2 = .error e) : (p.repartition g).1 = p := by
  by_cases idle : g.partitions = 0
  · simp [repartition, bind, assign, idle]
  · rw [repartition_eq idle] at refused
    cases refused

theorem repartition_of_assign {p p' : Partitioner} {g : ConsumerGroup}
    (assigned : p.assign g = .ok p') : g.partitions ≠ 0 ∧ p' = (p.repartition g).1 := by
  by_cases idle : g.partitions = 0
  · rw [assign, if_pos idle] at assigned
    cases assigned
  · rw [assign, if_neg idle] at assigned
    rw [repartition_eq idle]
    exact ⟨idle, (Except.ok.inj assigned).symm⟩

/-- What a partitioner shows after these calls, and how it takes the next. -/
structure LastWins (calls : List Call) (p : Partitioner) : Prop where
  one_by_one : empty.bind (made calls) = (p, .ok ())
  partitions : ∀ queue group, p.partitions? queue group =
    lastSet (fun g => queue ∈ g.queues ∧ g.groupId = group) (made calls)
  stagePartitions : ∀ stage, p.stagePartitions? stage = lastSet (·.stage = stage) (made calls)
  positive : (∀ queue group, p.partitions? queue group ≠ some 0) ∧
    ∀ stage, p.stagePartitions? stage ≠ some 0
  fails : ∀ call, (∃ e, (p.perform call).2 = .error e) ↔ ∃ g ∈ call.groups, g.partitions = 0
  /-- What is blamed is the first group that has no partitions. -/
  blames : ∀ call e, (p.perform call).2 = .error e →
    ∃ g, call.groups.find? (·.partitions = 0) = some g ∧ e = .noPartitions g.stage
  unchanged : ∀ g e, (p.repartition g).2 = .error e → (p.repartition g).1 = p
  /-- This holds of every partitioner, so also in the middle of a call. -/
  others : ∀ (q q' : Partitioner) (g : ConsumerGroup), q.assign g = .ok q' →
    (∀ queue group, ¬ (queue ∈ g.queues ∧ group = g.groupId) →
      q'.partitions? queue group = q.partitions? queue group) ∧
    ∀ stage, stage ≠ g.stage → q'.stagePartitions? stage = q.stagePartitions? stage
  again : ∀ call, (p.perform call).1.perform call = p.perform call

/-- The last assignment to an entry wins, whatever calls it was made by and whatever calls were
refused before and after it. -/
theorem after_calls_lastWins (calls : List Call) : LastWins calls (empty.after calls) := by
  have flat := after_eq empty calls
  have queues : ∀ queue group, (empty.after calls).partitions? queue group =
      lastSet (fun g => queue ∈ g.queues ∧ g.groupId = group) (made calls) := by
    intro queue group
    rw [flat, partitions?_bind (made_busy calls)]
    exact Option.or_none
  have stages : ∀ stage, (empty.after calls).stagePartitions? stage =
      lastSet (·.stage = stage) (made calls) := by
    intro stage
    rw [flat, stagePartitions?_bind (made_busy calls)]
    exact Option.or_none
  constructor
  case one_by_one => exact Prod.ext flat.symm (bind_ok (made_busy calls))
  case partitions => exact queues
  case stagePartitions => exact stages
  case positive =>
    constructor
    · intro queue group
      rw [queues]
      exact lastSet_made_ne_zero
    · intro stage
      rw [stages]
      exact lastSet_made_ne_zero
  case fails =>
    intro call
    rw [perform_eq]
    exact bind_fails_iff
  case blames =>
    intro call e refused
    rw [perform_eq] at refused
    exact refused_iff.mp refused
  case unchanged => exact fun g e => repartition_of_refused
  case others =>
    intro q q' g assigned
    obtain ⟨busy, rfl⟩ := repartition_of_assign assigned
    constructor
    · intro queue group other
      rw [partitions?_repartition busy, if_neg other]
    · intro stage other
      rw [stagePartitions?_repartition busy, if_neg other]
  case again =>
    intro call
    have occupied : Occupied (empty.after calls) := flat ▸ Occupied.empty.bind (made calls)
    rw [perform_eq, perform_eq]
    exact bind_again call.groups occupied

/-- The group before the refused one is bound, that after it is not. -/
example :
    let p := empty.after [.bind [⟨"a", 1, 2, ["x", "y"]⟩, ⟨"b", 2, 0, ["y"]⟩, ⟨"c", 3, 1, ["z"]⟩],
      .repartition ⟨"a", 1, 5, ["y"]⟩]
    p.partitions? "x" 1 = some 2 ∧ p.partitions? "y" 1 = some 5 ∧ p.stagePartitions? "a" = some 5
      ∧ p.stagePartitions? "b" = none ∧ p.stagePartitions? "c" = none := by
  decide

end FlowRuntime.Partitioner
