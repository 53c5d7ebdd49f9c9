import FlowRuntime.Proofs.Listener.Patience
import FlowRuntime.Proofs.Listener.Reception

/-!
How much a listener has left to do. It handles each thing it was told once, and attempts what it
writes of it only so often. We verify that it never has more left after it has worked, and
less if it need not have waited; and that once it was told the end, it has nothing left only
when it is over.
-/
namespace FlowRuntime

namespace Listener

/-- The most turns that one thing it was told may take it. -/
def weight : Listener → Nat
  | .hearer _ => 2
  | .recorder r => 2 * r.policy.most

def current : Listener → Nat
  | .hearer h => if h.hearing.isSome then 1 else 0
  | .recorder r => (r.writing.map (·.stay.turns)).getD 0

def toDo (l : Listener) : Nat := l.inbox.pending.length * l.weight + l.current

theorem toDo_hearer (h : Hearer) : (hearer h).toDo = h.inbox.pending.length * 2
    + if h.hearing.isSome then 1 else 0 := rfl

theorem toDo_recorder (r : Recorder) : (recorder r).toDo
    = r.inbox.pending.length * (2 * r.policy.most) + (r.writing.map (·.stay.turns)).getD 0 := rfl

theorem weight_pos (l : Listener) : 0 < l.weight := by
  cases l with
  | hearer h => exact Nat.two_pos
  | recorder r =>
    have allowed : 0 < r.policy.most := Nat.lt_of_lt_of_le Nat.one_pos (Nat.le_max_left _ _)
    exact Nat.mul_pos Nat.two_pos allowed

theorem Same.weight (same : Same l l') : l'.weight = l.weight := by
  cases same with
  | hearer => rfl
  | recorder same => simp [Listener.weight, same.policy]

end Listener

open Listener

namespace Recorder

theorem toDo_handleAll {r : Recorder} (now : Nat) (idle : r.writing = none) (pending : List Notice)
    (ledger : Ledger) : (Listener.recorder (r.handleAll now pending ledger).1).toDo
      + min 1 pending.length ≤ pending.length * (2 * r.policy.most) := by
  have allowed : 0 < r.policy.most := Nat.lt_of_lt_of_le Nat.one_pos (Nat.le_max_left _ _)
  induction pending generalizing ledger with
  | nil => simp [handleAll, toDo_recorder, idle]
  | cons n rest ih =>
    rw [List.length_cons, Nat.succ_mul]
    have next (ledger : Ledger) : (Listener.recorder
        (if n.isLast then ({ r with inbox := .closed, isOver := true }, ledger)
          else r.handleAll now rest ledger).1).toDo ≤ rest.length * (2 * r.policy.most) := by
      split
      · simp [toDo_recorder, Inbox.closed, idle]
      · exact Nat.le_of_add_right_le (ih ledger)
    unfold handleAll
    dsimp only
    split
    · have less := next ledger
      omega
    · split
      · rename_i ledger' _
        have less := next ledger'
        omega
      · rename_i ledger' stay stays
        have fewer := (ahead_supply stays).few
        have most := r.policy.left_start
        simp only [toDo_recorder, Option.map_some, Option.getD_some]
        omega

theorem toDo_work (r : Recorder) (now : Nat) (ledger : Ledger) :
    (Listener.recorder (r.work now ledger).1).toDo ≤ (Listener.recorder r).toDo ∧
      ((Listener.recorder r).isReady now = true → 0 < (Listener.recorder r).toDo →
        (Listener.recorder (r.work now ledger).1).toDo < (Listener.recorder r).toDo) := by
  unfold Recorder.work
  split
  · rename_i idle
    have less := toDo_handleAll now idle r.inbox.pending ledger
    have whole : (Listener.recorder r).toDo = r.inbox.pending.length * (2 * r.policy.most) := by
      rw [toDo_recorder, idle]
      rfl
    rw [whole]
    refine ⟨Nat.le_of_add_right_le less, ?_⟩
    intro _ some_left
    have some_pending : 0 < r.inbox.pending.length := Nat.pos_of_mul_pos_right some_left
    omega
  · rename_i w writing
    have whole : (Listener.recorder r).toDo =
        r.inbox.pending.length * (2 * r.policy.most) + w.stay.turns := by
      rw [toDo_recorder, writing]
      rfl
    have some_turns := w.stay.turns_pos
    split
    · rename_i early
      refine ⟨Nat.le_refl _, ?_⟩
      intro ready
      simp only [Listener.isReady, Listener.waits?, writing, Option.map_some, Option.all_some] at ready
      simp [ready] at early
    · split
      · rename_i ledger' stay stays
        obtain ⟨turns, less, ahead⟩ := ahead_goOn stays
        have fewer := Nat.lt_of_le_of_lt ahead.few less
        rw [whole, toDo_recorder]
        simp only [Option.map_some, Option.getD_some]
        omega
      · split
        · rw [whole]
          simp only [toDo_recorder, Inbox.closed, List.length_nil, Option.map_none, Option.getD_none]
          omega
        · rename_i ledger' _ _
          have less := toDo_handleAll (r := { r with writing := none }) now rfl r.inbox.pending
            ledger'
          dsimp only at less
          rw [whole]
          omega

end Recorder

namespace Hearer

theorem toDo_hearAll (h : Hearer) (now : Nat) (idle : h.hearing = none) (pending : List Notice) :
    (Listener.hearer (h.hearAll now pending)).toDo + min 1 pending.length ≤ pending.length * 2 := by
  induction pending generalizing h with
  | nil => simp [hearAll, toDo_hearer, idle]
  | cons n rest ih =>
    rw [List.length_cons, Nat.succ_mul]
    unfold hearAll
    dsimp only
    split
    · split
      · simp [toDo_hearer, Inbox.closed, idle]
      · have less := ih { h with pace := h.pace.tail, heard := h.heard ++ [n] } idle
        omega
    · simp only [toDo_hearer, Option.isSome_some, if_true]
      omega

theorem toDo_work (h : Hearer) (now : Nat) :
    (Listener.hearer (h.work now)).toDo ≤ (Listener.hearer h).toDo ∧
      ((Listener.hearer h).isReady now = true → 0 < (Listener.hearer h).toDo →
        (Listener.hearer (h.work now)).toDo < (Listener.hearer h).toDo) := by
  unfold Hearer.work
  split
  · rename_i idle
    have less := h.toDo_hearAll now idle h.inbox.pending
    have whole : (Listener.hearer h).toDo = h.inbox.pending.length * 2 := by
      rw [toDo_hearer, idle]
      rfl
    omega
  · rename_i w hearing
    have whole : (Listener.hearer h).toDo = h.inbox.pending.length * 2 + 1 := by
      rw [toDo_hearer, hearing]
      rfl
    split
    · rename_i early
      refine ⟨Nat.le_refl _, ?_⟩
      intro ready
      simp only [Listener.isReady, Listener.waits?, hearing, Option.map_some, Option.all_some] at ready
      simp [ready] at early
    · split
      · rw [whole]
        simp [toDo_hearer, Inbox.closed]
      · have less := toDo_hearAll { h with hearing := none } now rfl h.inbox.pending
        omega

end Hearer

section
variable {told : List Notice}

namespace Listener

theorem toDo_work (l : Listener) (now : Nat) (ledger : Ledger) :
    (l.work now ledger).1.toDo ≤ l.toDo ∧
      (l.isReady now = true → 0 < l.toDo → (l.work now ledger).1.toDo < l.toDo) := by
  cases l with
  | hearer h => exact h.toDo_work now
  | recorder r => exact r.toDo_work now ledger

theorem toDo_withInbox (l : Listener) (i : Inbox) (more : List Notice) :
    (l.withInbox { i with pending := i.pending ++ more }).toDo
      = (l.withInbox i).toDo + more.length * l.weight := by
  have whole : (i.pending ++ more).length * l.weight
      = i.pending.length * l.weight + more.length * l.weight := by
    rw [List.length_append, Nat.add_mul]
  cases l with
  | hearer h =>
    change (i.pending ++ more).length * (hearer h).weight + (hearer h).current = _
    rw [whole, Nat.add_right_comm]
    rfl
  | recorder r =>
    change (i.pending ++ more).length * (recorder r).weight + (recorder r).current = _
    rw [whole, Nat.add_right_comm]
    rfl

theorem toDo_taken (l : Listener) (most : Nat) :
    l.toDo = (l.taken most).toDo + (l.inbox.pending.drop most).length * l.weight := by
  have whole := toDo_withInbox l { l.inbox with pending := l.inbox.pending.take most }
    (l.inbox.pending.drop most)
  rw [List.take_append_drop] at whole
  change (l.withInbox l.inbox).toDo = _ at whole
  rwa [withInbox_inbox] at whole

/-- Even if it takes its time, it has less left to do whenever it need not wait. -/
theorem toDo_workOn (l : Listener) (most now : Nat) (ledger : Ledger) :
    (l.workOn most now ledger).1.toDo ≤ l.toDo ∧
      (l.isReady now = true → 0 < l.toDo → 0 < most →
        (l.workOn most now ledger).1.toDo < l.toDo) := by
  obtain ⟨less, fewer⟩ := (l.taken most).toDo_work now ledger
  have whole := l.toDo_taken most
  have after : (l.workOn most now ledger).1.toDo ≤ ((l.taken most).work now ledger).1.toDo
      + (l.inbox.pending.drop most).length * l.weight := by
    rcases l.workOn_cases most now ledger with ⟨ended, same⟩ | ⟨going, same⟩
    · rw [same]
      exact Nat.le_add_right _ _
    · have weight := ((l.taken_works most).trans ((l.taken most).works_work now ledger)).same.weight
      rw [same, toDo_withInbox, weight, withInbox_inbox]
  refine ⟨by omega, ?_⟩
  intro ready some_left some_taken
  have still : (l.taken most).isReady now = true := by
    cases l <;> exact ready
  have some_here : 0 < (l.taken most).toDo := by
    have first : (l.inbox.pending.take most).length * l.weight ≤ (l.taken most).toDo := by
      cases l <;> exact Nat.le_add_right _ _
    rw [List.length_take] at first
    rcases Nat.eq_zero_or_pos l.inbox.pending.length with nothing | something
    · rw [List.length_drop, nothing, Nat.zero_sub, Nat.zero_mul] at whole
      omega
    · have some_pending := Nat.mul_pos (Nat.lt_min.mpr ⟨some_taken, something⟩) l.weight_pos
      omega
  have strict := fewer still some_here
  omega

theorem Receives.toDo_pos (receives : Receives told l) (going : l.isOver = false) {n : Notice}
    (mem : n ∈ told) (last : n.isLast = true) : 0 < l.toDo := by
  have quits : l.Quits n := by
    cases l with
    | hearer h => simp [Quits, Hearer.quits, last]
    | recorder r => exact last
  cases receives.progress with
  | quit ended => simp [ended] at going
  | @listening handled current _ split on shows =>
    have unhandled : n ∉ handled := fun before => on n before quits
    have ahead : n ∈ current.toList ∨ n ∈ l.inbox.pending := by simpa [split, unhandled] using mem
    rcases ahead with here | pending
    · cases shows with
      | hearing _ hearing => simp [toDo_hearer, hearing]
      | @busy _ w _ _ writing =>
        rw [toDo_recorder, writing]
        exact Nat.add_pos_right _ w.stay.turns_pos
      | heard | idle => simp at here
    · exact Nat.lt_of_lt_of_le (Nat.mul_pos (List.length_pos_of_mem pending) l.weight_pos)
        (Nat.le_add_right _ _)

end Listener
end
end FlowRuntime
