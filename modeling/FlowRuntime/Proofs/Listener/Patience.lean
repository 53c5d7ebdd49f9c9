import FlowRuntime.Listener.Audience

/-!
What listeners wait for. We verify that a listener that has worked waits for nothing that has come
already: neither for an answer or an attempt that is due, nor for the end of what it hears. Of a
write that is to be gone on with, we also say how many turns it takes yet.
-/
namespace FlowRuntime

theorem waitFor_pos {ms : Nat} (some_time : ms ≠ 0) : 0 < waitFor ms :=
  Nat.lt_min.mpr ⟨Nat.pos_of_ne_zero some_time, by decide⟩

def Upcoming (now : Nat) (due : Option Nat) : Prop := ∀ time, due = some time → now < time

theorem upcoming_of_early {now : Nat} {due : Option Nat} (early : isUp now due = false) :
    Upcoming now due := by
  rintro time rfl
  simpa [isUp] using early

theorem upcoming_delay {now : Nat} {delay : Option Nat} (some_time : delay ≠ some 0) :
    Upcoming now (delay.map (now + ·)) := by
  intro time due
  obtain ⟨ms, rfl, rfl⟩ := Option.map_eq_some_iff.mp due
  have positive : ms ≠ 0 := fun zero => some_time (zero ▸ rfl)
  omega

theorem Listener.upcoming_idle {l : Listener} (idle : l.waits? = none) (now : Nat) :
    Upcoming now l.dueAt? := by
  intro time due
  rw [dueAt?, idle] at due
  cases due

theorem Listener.upcoming_early {l : Listener} {now : Nat} {due : Option Nat}
    (waits : l.waits? = some due) (early : isUp now due = false) : Upcoming now l.dueAt? := by
  rw [dueAt?, waits]
  exact upcoming_of_early early

/-- The most turns that a write takes yet: one for each answer, and one before each attempt. -/
def Stay.turns (s : Stay) : Nat :=
  match s.pause with
  | .answer _ => 2 * s.left + 1
  | .backoff => 2 * s.left + 2

theorem Stay.turns_pos (s : Stay) : 0 < s.turns := by
  unfold turns
  split <;> exact Nat.succ_pos _

/-- What a write waits for is still to come at this time, and it takes so many turns yet at most. -/
structure Stay.Ahead (now turns : Nat) (s : Stay) : Prop where
  upcoming : Upcoming now s.dueAt
  few : s.turns ≤ turns

theorem Stay.Ahead.mono {now turns turns' : Nat} {s : Stay} (ahead : s.Ahead now turns)
    (most : turns ≤ turns') : s.Ahead now turns' :=
  ⟨ahead.upcoming, Nat.le_trans ahead.few most⟩

namespace Recorder

section
variable {now delay left most : Nat} {write : RecordWrite} {stay stay' : Stay}
  {otherwise : Ledger → Ledger × Option Stay} {ledger ledger' : Ledger}

theorem ahead_heed {accepted : Bool}
    (later : ∀ l, otherwise l = (ledger', some stay) → stay.Ahead now most)
    (stays : heed write accepted otherwise ledger = (ledger', some stay)) : stay.Ahead now most := by
  unfold heed at stays
  split at stays
  · cases stays
  · exact later _ stays

theorem ahead_attempt
    (later : ∀ l, otherwise l = (ledger', some stay) → stay.Ahead now (2 * left))
    (stays : attempt now write left otherwise ledger = (ledger', some stay)) :
    stay.Ahead now (2 * left + 1) := by
  unfold attempt at stays
  dsimp only at stays
  split at stays
  · exact ahead_heed (fun l again => (later l again).mono (Nat.le_succ _)) stays
  · rename_i takes_time
    cases stays
    exact ⟨upcoming_delay takes_time, Nat.le_refl _⟩

theorem ahead_retry (stays : retry now write delay left ledger = (ledger', some stay)) :
    stay.Ahead now (2 * left) := by
  induction left generalizing ledger with
  | zero =>
    unfold retry at stays
    cases stays
  | succ left ih =>
    unfold retry at stays
    split at stays
    · exact (ahead_attempt (fun _ again => ih again) stays).mono (Nat.le_succ _)
    · rename_i takes_time
      cases stays
      have positive := waitFor_pos takes_time
      refine ⟨?_, Nat.le_refl _⟩
      rintro time ⟨⟩
      omega

theorem ahead_supply (stays : supply now write delay left ledger = (ledger', some stay)) :
    stay.Ahead now (2 * left + 1) :=
  ahead_attempt (fun _ again => ahead_retry again) stays

/-- A write that is gone on with takes fewer turns yet, if it is not done with. -/
theorem ahead_goOn (stays : goOn now write delay stay ledger = (ledger', some stay')) :
    ∃ turns < stay.turns, stay'.Ahead now turns := by
  unfold goOn at stays
  unfold Stay.turns
  cases pause : stay.pause with
  | answer accepted =>
    rw [pause] at stays
    exact ⟨_, Nat.lt_succ_self _, ahead_heed (fun _ again => ahead_retry again) stays⟩
  | backoff =>
    rw [pause] at stays
    exact ⟨_, Nat.lt_succ_self _, ahead_supply stays⟩

end

theorem upcoming_handleAll {r : Recorder} (now : Nat) (idle : r.writing = none)
    (pending : List Notice) (ledger : Ledger) :
    Upcoming now (Listener.recorder (r.handleAll now pending ledger).1).dueAt? := by
  have waits_not {inbox : Inbox} {isOver : Bool} :
      (Listener.recorder { r with inbox := inbox, isOver := isOver }).waits? = none := by
    rw [Listener.waits?, idle, Option.map_none]
  induction pending generalizing ledger with
  | nil => exact Listener.upcoming_idle waits_not now
  | cons n rest ih =>
    have after (ledger : Ledger) : Upcoming now (Listener.recorder
        (if n.isLast then ({ r with inbox := .closed, isOver := true }, ledger)
          else r.handleAll now rest ledger).1).dueAt? := by
      split
      · exact Listener.upcoming_idle waits_not now
      · exact ih ledger
    unfold handleAll
    dsimp only
    split
    · exact after ledger
    · split
      · exact after _
      · rename_i stays
        exact (ahead_supply stays).upcoming

theorem upcoming_work (r : Recorder) (now : Nat) (ledger : Ledger) :
    Upcoming now (Listener.recorder (r.work now ledger).1).dueAt? := by
  unfold Recorder.work
  split
  · rename_i idle
    exact upcoming_handleAll now idle _ ledger
  · rename_i w writing
    split
    · rename_i early
      have waits : (Listener.recorder r).waits? = some w.stay.dueAt := by
        rw [Listener.waits?, writing, Option.map_some]
      exact Listener.upcoming_early waits (by simpa using early)
    · split
      · rename_i stays
        obtain ⟨_, _, ahead⟩ := ahead_goOn stays
        exact ahead.upcoming
      · split
        · exact Listener.upcoming_idle rfl now
        · exact upcoming_handleAll now rfl _ _

end Recorder

namespace Hearer

theorem upcoming_hearAll (h : Hearer) (now : Nat) (idle : h.hearing = none) (pending : List Notice) :
    Upcoming now (Listener.hearer (h.hearAll now pending)).dueAt? := by
  have waits_not {h : Hearer} (idle : h.hearing = none) : (Listener.hearer h).waits? = none := by
    rw [Listener.waits?, idle, Option.map_none]
  induction pending generalizing h with
  | nil => exact Listener.upcoming_idle (waits_not idle) now
  | cons n rest ih =>
    unfold hearAll
    dsimp only
    split
    · split
      · exact Listener.upcoming_idle (waits_not idle) now
      · exact ih _ idle
    · rename_i takes_time
      exact upcoming_delay takes_time

theorem upcoming_work (h : Hearer) (now : Nat) :
    Upcoming now (Listener.hearer (h.work now)).dueAt? := by
  unfold Hearer.work
  split
  · rename_i idle
    exact h.upcoming_hearAll now idle _
  · rename_i w hearing
    split
    · rename_i early
      have waits : (Listener.hearer h).waits? = some w.dueAt := by
        rw [Listener.waits?, hearing, Option.map_some]
      exact Listener.upcoming_early waits (by simpa using early)
    · split
      · exact Listener.upcoming_idle rfl now
      · exact upcoming_hearAll _ now rfl _

end Hearer

theorem Listener.upcoming_work (l : Listener) (now : Nat) (ledger : Ledger) :
    Upcoming now (l.work now ledger).1.dueAt? := by
  cases l with
  | hearer h => exact h.upcoming_work now
  | recorder r => exact r.upcoming_work now ledger

end FlowRuntime
