import FlowRuntime.Listener.Recorder
import FlowRuntime.Proofs.Record.Store

/-!
Writes by their attempts. Writes are made one after the other; each is attempted until an
attempt succeeds or as often as is allowed, and then it is dropped. An attempt fails if it is
refused or if the store turns it down. We verify that what is supplied to a ledger is
attempted in this way, and that if no write has been dropped, the record is what the
writes make of it.
-/
namespace FlowRuntime

inductive Stored (run : ProgramRunId) (write : RecordWrite) :
    Option RecordStore → Option RecordStore → Prop where
  | unkept : Stored run write none none
  | kept {s s' : RecordStore} (written : RecordStore.write s run write = .ok s') :
      Stored run write (some s) (some s')

namespace LoggedWrite

/-- An attempt of this write that was refused, or turned down by the store. -/
structure Fails (run : ProgramRunId) (store : Option RecordStore) (write : RecordWrite)
    (a : LoggedWrite) : Prop where
  write_eq : a.write = write
  turned_down : a.accepted = true →
    ∃ s e, store = some s ∧ RecordStore.write s run write = .error e

structure Succeeds (run : ProgramRunId) (store : Option RecordStore) (write : RecordWrite)
    (a : LoggedWrite) (store' : Option RecordStore) : Prop where
  write_eq : a.write = write
  accepted : a.accepted = true
  stored : Stored run write store store'

end LoggedWrite

/-- From this store on, these writes have been made by these attempts, with at most so many attempts
of each; so many writes have been dropped, and the store has become that. -/
inductive Written (run : ProgramRunId) (most : Nat) (store : Option RecordStore) :
    List RecordWrite → List LoggedWrite → Nat → Option RecordStore → Prop where
  | nothing : Written run most store [] [] 0 store
  | succeeded {writes : List RecordWrite} {log failed : List LoggedWrite} {dropped : Nat}
      {store' store'' : Option RecordStore} {write : RecordWrite} {last : LoggedWrite}
      (before : Written run most store writes log dropped store')
      (failing : ∀ a ∈ failed, a.Fails run store' write) (fewer : failed.length < most)
      (success : last.Succeeds run store' write store'') :
      Written run most store (writes ++ [write]) (log ++ (failed ++ [last])) dropped store''
  | dropped {writes : List RecordWrite} {log failed : List LoggedWrite} {dropped : Nat}
      {store' : Option RecordStore} {write : RecordWrite}
      (before : Written run most store writes log dropped store')
      (failing : ∀ a ∈ failed, a.Fails run store' write) (all : failed.length = most) :
      Written run most store (writes ++ [write]) (log ++ failed) (dropped + 1) store'

/-- Writes of which the first have been made. Attempts of the next may have failed already, and the
answer to one more may be awaited. -/
def PartlyWritten (run : ProgramRunId) (most : Nat) (store : Option RecordStore)
    (writes : List RecordWrite) (log : List LoggedWrite) (dropped : Nat)
    (store' : Option RecordStore) : Prop :=
  ∃ (made ahead : List RecordWrite) (earlier failed : List LoggedWrite) (asked : Option LoggedWrite),
    writes = made ++ ahead ∧ log = earlier ++ (failed ++ asked.toList) ∧
    Written run most store made earlier dropped store' ∧ failed.length < most ∧
    (∀ a ∈ failed, ∃ write, ahead.head? = some write ∧ a.Fails run store' write) ∧
    ∀ a ∈ asked, ahead.head? = some a.write

section
variable {run : ProgramRunId} {most dropped : Nat} {store store' : Option RecordStore}
  {writes : List RecordWrite} {log : List LoggedWrite}

theorem Written.isSome_store (written : Written run most store writes log dropped store') :
    store'.isSome = store.isSome := by
  induction written with
  | nothing => rfl
  | succeeded before failing fewer success ih =>
    rw [← ih]
    cases success.stored <;> rfl
  | dropped before failing all ih => exact ih

theorem Written.record {secs : Int64} {systemArgs userArgs : Args} {s : RecordStore}
    (written : Written run most store (.start secs systemArgs userArgs :: writes) log 0 (some s)) :
    RecordStore.get? s run = .ok (some (writes.foldl RecordWrite.amend
      ⟨run, secs, none, .running, none, systemArgs, userArgs⟩)) := by
  generalize whole : RecordWrite.start secs systemArgs userArgs :: writes = all,
    none_dropped : 0 = count, ending : some s = final at written
  induction written generalizing writes s with
  | nothing => cases whole
  | @succeeded made log failed dropped store' store'' write last before failing fewer success ih =>
    subst ending
    cases success.stored with
    | @kept s' _ stored =>
      cases made with
      | nil =>
        simp only [List.nil_append, List.cons.injEq] at whole
        obtain ⟨rfl, rfl⟩ := whole
        exact RecordStore.get?_write_start stored
      | cons first rest =>
        simp only [List.cons_append, List.cons.injEq] at whole
        obtain ⟨rfl, rfl⟩ := whole
        have found := ih rfl none_dropped rfl
        rw [List.foldl_append]
        exact RecordStore.get?_write found (RecordWrite.foldl_amend_run rest _) stored
  | dropped before failing all ih => cases none_dropped

theorem Written.record_or_lost {s : RecordStore}
    (written : Written run most (some s) writes log dropped store')
    (absent : RecordStore.get? s run = .ok none) :
    ∃ s', store' = some s' ∧
      ((∃ record, RecordStore.get? s' run = .ok (some record) ∧ record.run = run) ∨
        s' = s ∧ dropped = writes.length) := by
  induction written with
  | nothing => exact ⟨s, rfl, .inr ⟨rfl, rfl⟩⟩
  | @succeeded _ _ _ _ _ _ write _ before failing fewer success ih =>
    obtain ⟨s', rfl, found⟩ := ih
    cases success.stored with
    | @kept _ s'' stored =>
      refine ⟨s'', rfl, .inl ?_⟩
      rcases found with ⟨record, found, same⟩ | ⟨rfl, _⟩
      · exact ⟨_, RecordStore.get?_write found same stored, (RecordWrite.amend_run record _).trans same⟩
      · exact RecordStore.get?_write_of_absent absent stored
  | dropped before failing all ih =>
    obtain ⟨s', rfl, found⟩ := ih
    refine ⟨s', rfl, found.imp_right fun lost => ⟨lost.1, ?_⟩⟩
    rw [lost.2, List.length_append]
    rfl

end

/-! ### Attempts -/

section
variable {write : RecordWrite} {l l' l'' : Ledger}

/-- These attempts have been added to a ledger. -/
structure Attempted (l : Ledger) (attempts : List LoggedWrite) (l' : Ledger) : Prop where
  run : l'.run = l.run
  log : l'.log = l.log ++ attempts
  count : l'.attempts = l.attempts + attempts.length

theorem Attempted.nil (l : Ledger) : Attempted l [] l := ⟨rfl, by simp, rfl⟩

theorem Attempted.trans {first second : List LoggedWrite} (before : Attempted l first l')
    (after : Attempted l' second l'') : Attempted l (first ++ second) l'' where
  run := after.run.trans before.run
  log := by rw [after.log, before.log, List.append_assoc]
  count := by rw [after.count, before.count, List.length_append, Nat.add_assoc]

theorem Ledger.attempt_attempted (l : Ledger) (now : Nat) (write : RecordWrite) :
    Attempted l [⟨write, now, (l.attempt now write).2.accepted⟩] (l.attempt now write).1 :=
  ⟨rfl, rfl, rfl⟩

theorem Ledger.conclude_cases (l : Ledger) {a : LoggedWrite} (asks : a.write = write) :
    (∃ l', l.conclude write a.accepted = (l', true) ∧ Attempted l [] l' ∧ l'.dropped = l.dropped ∧
        a.Succeeds l.run l.store write l'.store) ∨
      (l.conclude write a.accepted = (l, false) ∧ a.Fails l.run l.store write) := by
  unfold Ledger.conclude
  split
  · rename_i accepted
    unfold Ledger.persist
    split
    · rename_i unkept
      refine .inl ⟨l, rfl, .nil l, rfl, asks, accepted, ?_⟩
      rw [unkept]
      exact .unkept
    · rename_i store kept
      split
      · rename_i store' written
        refine .inl ⟨_, rfl, ⟨rfl, by simp, rfl⟩, rfl, asks, accepted, ?_⟩
        rw [kept]
        exact .kept written
      · rename_i e turned_down
        exact .inr ⟨rfl, asks, fun _ => ⟨store, e, kept, turned_down⟩⟩
  · rename_i refused
    refine .inr ⟨rfl, asks, ?_⟩
    simp [refused]

/-! ### Going on with a write -/

/-- There is more to do about a write, of which these are the attempts so far. All of them failed, but
for the last if its answer is awaited. -/
inductive Underway (run : ProgramRunId) (most : Nat) (store : Option RecordStore)
    (write : RecordWrite) (stay : Stay) : List LoggedWrite → Prop where
  | asked {failed : List LoggedWrite} {a : LoggedWrite} (pause : stay.pause = .answer a.accepted)
      (failing : ∀ b ∈ failed, b.Fails run store write) (asks : a.write = write)
      (count : failed.length + (stay.left + 1) = most) :
      Underway run most store write stay (failed ++ [a])
  | resting {failed : List LoggedWrite} (pause : stay.pause = .backoff)
      (failing : ∀ b ∈ failed, b.Fails run store write)
      (count : failed.length + (stay.left + 1) = most) : Underway run most store write stay failed

/-- What has become of a write of which there were such attempts `past`: all about it has been done, or
there is more to do. -/
inductive Tried (most : Nat) (store : Option RecordStore) (writes : List RecordWrite)
    (log past : List LoggedWrite) (write : RecordWrite) (l : Ledger) : Ledger × Option Stay → Prop where
  | done {new : List LoggedWrite} {l' : Ledger} (attempted : Attempted l new l')
      (written : Written l.run most store (writes ++ [write]) (log ++ (past ++ new)) l'.dropped
        l'.store) : Tried most store writes log past write l (l', none)
  | unfinished {new : List LoggedWrite} {l' : Ledger} {stay : Stay} (attempted : Attempted l new l')
      (underway : Underway l.run most l.store write stay (past ++ new))
      (kept : l'.dropped = l.dropped) (same : l'.store = l.store) :
      Tried most store writes log past write l (l', some stay)

variable {most left : Nat} {store : Option RecordStore} {writes : List RecordWrite}
  {log past failed : List LoggedWrite} {otherwise : Ledger → Ledger × Option Stay}

theorem Tried.after {new : List LoggedWrite} {result : Ledger × Option Stay}
    (attempted : Attempted l new l') (same : l'.store = l.store) (kept : l'.dropped = l.dropped)
    (later : Tried most store writes log (past ++ new) write l' result) :
    Tried most store writes log past write l result := by
  have run := attempted.run
  cases later with
  | done more written =>
    rw [run, List.append_assoc] at written
    exact .done (attempted.trans more) written
  | unfinished more underway kept' same' =>
    rw [run, same, List.append_assoc] at underway
    exact .unfinished (attempted.trans more) underway (kept'.trans kept) (same'.trans same)

namespace Recorder

theorem heed_tried {a : LoggedWrite} (asks : a.write = write)
    (written : Written l.run most store writes log l.dropped l.store)
    (failing : ∀ b ∈ failed, b.Fails l.run l.store write) (fewer : failed.length < most)
    (next : (∀ b ∈ failed ++ [a], b.Fails l.run l.store write) →
      Tried most store writes log (failed ++ [a]) write l (otherwise l)) :
    Tried most store writes log (failed ++ [a]) write l (heed write a.accepted otherwise l) := by
  unfold heed
  rcases l.conclude_cases asks with ⟨l', concluded, attempted, kept, success⟩ | ⟨concluded, fails⟩
  · rw [concluded]
    refine .done attempted ?_
    rw [kept, List.append_nil]
    exact written.succeeded failing fewer success
  · rw [concluded]
    exact next (List.forall_mem_append.mpr ⟨failing, List.forall_mem_singleton.mpr fails⟩)

theorem attempt_tried (now : Nat)
    (written : Written l.run most store writes log l.dropped l.store)
    (failing : ∀ b ∈ failed, b.Fails l.run l.store write) (count : failed.length + (left + 1) = most)
    (next : ∀ (l' : Ledger) (a : LoggedWrite), Attempted l [a] l' → l'.store = l.store →
      l'.dropped = l.dropped → (∀ b ∈ failed ++ [a], b.Fails l.run l.store write) →
      Tried most store writes log (failed ++ [a]) write l' (otherwise l')) :
    Tried most store writes log failed write l (attempt now write left otherwise l) := by
  have attempted := l.attempt_attempted now write
  unfold attempt
  dsimp only
  split
  · exact .after attempted rfl rfl (heed_tried rfl written failing (by omega)
      (next _ _ attempted rfl rfl))
  · exact .unfinished attempted (.asked rfl failing rfl count) rfl rfl

theorem retry_tried (now delay : Nat)
    (written : Written l.run most store writes log l.dropped l.store)
    (failing : ∀ b ∈ failed, b.Fails l.run l.store write) (count : failed.length + left = most) :
    Tried most store writes log failed write l (retry now write delay left l) := by
  induction left generalizing l failed with
  | zero =>
    have dropped : Attempted l [] l.drop := ⟨rfl, by simp [Ledger.drop], rfl⟩
    refine .done dropped ?_
    rw [List.append_nil]
    exact written.dropped failing count
  | succ left ih =>
    unfold retry
    split
    · refine attempt_tried now written failing count ?_
      intro l' a attempted same kept fails
      rw [← attempted.run, ← same] at fails
      rw [← attempted.run, ← same, ← kept] at written
      refine ih written fails ?_
      rw [List.length_append, List.length_singleton]
      omega
    · refine .unfinished (.nil l) ?_ rfl rfl
      rw [List.append_nil]
      exact .resting rfl failing count

theorem supply_tried (now delay : Nat)
    (written : Written l.run most store writes log l.dropped l.store)
    (failing : ∀ b ∈ failed, b.Fails l.run l.store write) (count : failed.length + (left + 1) = most) :
    Tried most store writes log failed write l (supply now write delay left l) := by
  refine attempt_tried now written failing count ?_
  intro l' a attempted same kept fails
  rw [← attempted.run, ← same] at fails
  rw [← attempted.run, ← same, ← kept] at written
  refine retry_tried now delay written fails ?_
  rw [List.length_append, List.length_singleton]
  omega

theorem goOn_tried {stay : Stay} (now delay : Nat)
    (written : Written l.run most store writes log l.dropped l.store)
    (underway : Underway l.run most l.store write stay past) :
    Tried most store writes log past write l (goOn now write delay stay l) := by
  unfold goOn
  cases underway with
  | @asked failed a pause failing asks count =>
    rw [pause]
    refine heed_tried asks written failing (by omega) ?_
    intro fails
    refine retry_tried now delay written fails ?_
    rw [List.length_append, List.length_singleton]
    omega
  | resting pause failing count =>
    rw [pause]
    exact supply_tried now delay written failing count

end Recorder
end
end FlowRuntime
