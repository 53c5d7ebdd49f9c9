import FlowRuntime.Instance.Local

/-!
What an instance makes of requests. Nothing changes its place, and once it has stopped
it stays as it is. Requests in its queue are handled one after the other, so a queue
may be cut in two; one that finds the instance stopped is granted at most if it asks
to stop.
-/
namespace FlowRuntime.LocalInstance

theorem eq_mk {i : LocalInstance} {key : StageKey} {state : InstanceState} {told : Nat}
    (here : i.key = key) (stands : i.state = state) (knows : i.told = told) :
    i = ⟨key, state, told⟩ := by
  cases i
  subst here stands knows
  rfl

theorem eq_of_start {options : InstanceOptions} {i : LocalInstance}
    (started : start options = .ok i) : i = ⟨options.key, .alive, options.instances⟩ := by
  unfold start at started
  split at started
  · cases started
    rfl
  · cases started

theorem key_of_start {options : InstanceOptions} {i : LocalInstance}
    (started : start options = .ok i) : i.key = options.key := by
  rw [eq_of_start started]

theorem handle_key (i : LocalInstance) (op : InstanceOp) : (i.handle op).1.key = i.key := by
  unfold handle
  split <;> first | rfl | (split <;> rfl)

theorem handleQueue_stopped {i : LocalInstance} (stopped : i.state = .stopped)
    (ops : List InstanceOp) :
    i.handleQueue ops = (i, ops.map fun _ => .error .instanceGone) := by
  cases ops with
  | nil => rfl
  | cons op rest => simp [handleQueue, stopped]

theorem handleQueue_cons {i : LocalInstance} (going : i.state ≠ .stopped) (op : InstanceOp)
    (rest : List InstanceOp) :
    i.handleQueue (op :: rest) = (((i.handle op).1.handleQueue rest).1,
      (i.handle op).2 :: ((i.handle op).1.handleQueue rest).2) := by
  simp [handleQueue, going]

theorem handleQueue_append (i : LocalInstance) (ops later : List InstanceOp) :
    i.handleQueue (ops ++ later) = (((i.handleQueue ops).1.handleQueue later).1,
      (i.handleQueue ops).2 ++ ((i.handleQueue ops).1.handleQueue later).2) := by
  induction ops generalizing i with
  | nil => simp [handleQueue]
  | cons op rest ih =>
    by_cases stopped : i.state = .stopped
    · simp [handleQueue_stopped stopped]
    · rw [List.cons_append, handleQueue_cons stopped, handleQueue_cons stopped, ih]
      rfl

theorem handleQueue_key (i : LocalInstance) (ops : List InstanceOp) :
    (i.handleQueue ops).1.key = i.key := by
  induction ops generalizing i with
  | nil => rfl
  | cons op rest ih =>
    by_cases stopped : i.state = .stopped
    · rw [handleQueue_stopped stopped]
    · rw [handleQueue_cons stopped, ih, handle_key]

theorem length_handleQueue (i : LocalInstance) (ops : List InstanceOp) :
    (i.handleQueue ops).2.length = ops.length := by
  induction ops generalizing i with
  | nil => rfl
  | cons op rest ih =>
    by_cases stopped : i.state = .stopped
    · rw [handleQueue_stopped stopped]
      simp
    · rw [handleQueue_cons stopped, List.length_cons, ih, List.length_cons]

theorem handle_going {i : LocalInstance} (going : i.state ≠ .stopped) {op : InstanceOp}
    (other : op ≠ .stop) : (i.handle op).1.state ≠ .stopped := by
  unfold handle
  split
  · simp
  · simp_all
  · simp
  · simp_all
  · exact absurd rfl other
  · split <;> simp_all
  · split <;> simp_all
  · exact going

theorem handleQueue_going {i : LocalInstance} (going : i.state ≠ .stopped) {ops : List InstanceOp}
    (others : ∀ op ∈ ops, op ≠ .stop) : (i.handleQueue ops).1.state ≠ .stopped := by
  induction ops generalizing i with
  | nil => exact going
  | cons op rest ih =>
    obtain ⟨first, later⟩ := List.forall_mem_cons.mp others
    rw [handleQueue_cons going]
    exact ih (handle_going going first) later

inductive Responds (i : LocalInstance) (op : InstanceOp) : LocalInstance → Answer → Prop where
  | handled (going : i.state ≠ .stopped) : Responds i op (i.handle op).1 (i.handle op).2
  | finished (stopped : i.state = .stopped) (answer : Answer) (excused : answer = .ok () → op = .stop) :
      Responds i op i answer

section
variable {i i' : LocalInstance} {op : InstanceOp} {answer : Answer}

theorem responds_handleQueue (i : LocalInstance) (op : InstanceOp) :
    ∃ answer, (i.handleQueue [op]).2 = [answer] ∧ i.Responds op (i.handleQueue [op]).1 answer := by
  by_cases stopped : i.state = .stopped
  · rw [handleQueue_stopped stopped]
    exact ⟨_, rfl, .finished stopped _ nofun⟩
  · rw [handleQueue_cons stopped]
    exact ⟨_, rfl, .handled stopped⟩

theorem responds_refuse (stopped : i.state = .stopped) (key : StageKey) (op : InstanceOp) :
    i.Responds op i (refuse key op) := by
  apply Responds.finished stopped
  cases op <;> simp [refuse]

namespace Responds

theorem key (responds : i.Responds op i' answer) : i'.key = i.key := by
  cases responds with
  | handled going => exact handle_key i op
  | finished stopped answer excused => rfl

theorem stays_stopped (responds : i.Responds op i' answer) (stopped : i.state = .stopped) :
    i' = i := by
  cases responds with
  | handled going => exact absurd stopped going
  | finished stopped answer excused => rfl

theorem of_stop (responds : i.Responds .stop i' answer) : i'.state = .stopped := by
  cases responds with
  | handled going => rfl
  | finished stopped answer excused => exact stopped

theorem granted (responds : i.Responds op i' (.ok ())) (other : op ≠ .stop) :
    i.handle op = (i', .ok ()) := by
  generalize same : (Except.ok () : Answer) = answer at responds
  cases responds with
  | handled going => rfl
  | finished stopped answer excused => exact absurd (excused same.symm) other

theorem of_suspend (responds : i.Responds .suspend i' (.ok ())) :
    i'.state = .suspended ∧ i'.told = i.told := by
  have granted := responds.granted (by simp)
  obtain ⟨key, state, told⟩ := i
  cases state <;> cases granted <;> exact ⟨rfl, rfl⟩

theorem of_resume (responds : i.Responds .resume i' (.ok ())) :
    i'.state = .alive ∧ i'.told = i.told := by
  have granted := responds.granted (by simp)
  obtain ⟨key, state, told⟩ := i
  cases state <;> cases granted <;> exact ⟨rfl, rfl⟩

theorem of_command {n : Nat} (responds : i.Responds (.command n) i' (.ok ())) :
    i'.told = n ∧ i'.state = i.state := by
  have granted := responds.granted (by simp)
  obtain ⟨key, state, told⟩ := i
  by_cases owns : key.instanceId < n <;> cases state <;> simp [handle, owns] at granted <;>
    simp [← granted]

end Responds

structure Able (i : LocalInstance) (op : InstanceOp) : Prop where
  going : i.state = .alive ∨ i.state = .suspended
  owns : ∀ n, op = .command n → i.key.instanceId < n

theorem Responds.of_able (responds : i.Responds op i' answer) (able : i.Able op) :
    answer = .ok () := by
  obtain ⟨going, owns⟩ := able
  cases responds with
  | handled _ =>
    obtain ⟨key, state, told⟩ := i
    rcases going with rfl | rfl <;> cases op with
    | suspend | resume | stop => rfl
    | command n => simp [handle, owns n rfl]
  | finished stopped answer excused =>
    rw [stopped] at going
    simp at going

end
end FlowRuntime.LocalInstance
