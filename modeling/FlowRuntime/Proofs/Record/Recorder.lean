import FlowRuntime.Proofs.Record.Written
import FlowRuntime.Proofs.Retry
import FlowRuntime.Proofs.Run.Story

/-!
The recorder and what it is told. At any time the first of what it was told have been
handled; of the next, attempts of the write that it leads to may have been made, and the
others are pending. We verify that this stays so whenever it is told more and whenever it
works, in whatever time it may be, whichever attempts are refused and however long the
answers take.
-/
namespace FlowRuntime

namespace Recorder

/-- What is pending, what is waited for, and which writes have been made how, once all this was told. -/
inductive Progress (entry : Notice → Option RecordWrite) (run : ProgramRunId) (most : Nat)
    (store : Option RecordStore) (told : List Notice) :
    List Notice → Option Writing → List LoggedWrite → Nat → Option RecordStore → Prop where
  | free {handled pending : List Notice} {log : List LoggedWrite} {dropped : Nat}
      {store' : Option RecordStore} (split : told = handled ++ pending)
      (written : Written run most store (handled.filterMap entry) log dropped store') :
      Progress entry run most store told pending none log dropped store'
  | waiting {handled pending : List Notice} {n : Notice} {w : Writing}
      {earlier past : List LoggedWrite} {dropped : Nat} {store' : Option RecordStore}
      (split : told = handled ++ n :: pending) (write : entry n = some w.write)
      (last : w.isLast = n.isLast)
      (written : Written run most store (handled.filterMap entry) earlier dropped store')
      (underway : Underway run most store' w.write w.stay past) :
      Progress entry run most store told pending (some w) (earlier ++ past) dropped store'

/-- A recorder has been told this and has made these attempts, starting from this store. -/
structure Keeps (store : Option RecordStore) (told : List Notice) (log : List LoggedWrite)
    (r : Recorder) (l : Ledger) : Prop where
  opens : (∀ n ∈ told, n.target.isTerminal = false) → r.inbox.isOpen = true
  progress : Progress (RecordWrite.ofNotice? r.options) l.run r.policy.most store told
    r.inbox.pending r.writing log l.dropped l.store

structure Same (r r' : Recorder) : Prop where
  options : r'.options = r.options
  policy : r'.policy = r.policy

variable {store : Option RecordStore} {told handled pending : List Notice}
  {log : List LoggedWrite} {r : Recorder} {l : Ledger}

theorem Keeps.tell (keeps : Keeps store told log r l) {n : Notice}
    (going : Going ((told ++ [n]).map Notice.toTransition)) :
    Keeps store (told ++ [n]) log { r with inbox := r.inbox.tell n } l := by
  have onward : ∀ n ∈ told, n.target.isTerminal = false := by simpa [Going] using going
  have opened := keeps.opens onward
  have inbox : r.inbox.tell n = ⟨r.inbox.pending ++ [n], !n.target.isTerminal⟩ := by
    rw [Inbox.tell, if_pos opened]
  rw [inbox]
  refine ⟨?_, ?_⟩
  · intro unended
    simp [unended n (by simp)]
  · have progress := keeps.progress
    dsimp only
    generalize r.inbox.pending = pending, r.writing = writing at progress
    cases progress with
    | free split written => exact .free (by rw [split, List.append_assoc]) written
    | waiting split write last written underway =>
      exact .waiting (by rw [split, List.append_assoc]; rfl) write last written underway

theorem nil_of_isLast {n : Notice} (going : Going ((handled ++ n :: pending).map Notice.toTransition))
    (last : n.isLast = true) : pending = [] := by
  cases pending with
  | nil => rfl
  | cons head rest =>
    have onward : n.target.isTerminal = false := by
      apply going n.toTransition
      rw [List.map_append, List.dropLast_append_of_ne_nil (by simp), List.map_cons, List.map_cons,
        List.dropLast_cons_cons]
      simp
    simp [Transition.isLast, onward] at last

/-- Starting from such a recorder and such a ledger, this is what some further attempts lead to. -/
def Does (store : Option RecordStore) (told : List Notice) (log : List LoggedWrite)
    (r : Recorder) (l : Ledger) (result : Recorder × Ledger) : Prop :=
  ∃ new, Attempted l new result.2 ∧ Same r result.1 ∧
    Keeps store told (log ++ new) result.1 result.2

theorem Does.after {l' : Ledger} {new : List LoggedWrite} {result : Recorder × Ledger}
    (attempted : Attempted l new l') (does : Does store told (log ++ new) r l' result) :
    Does store told log r l result := by
  obtain ⟨more, later, same, keeps⟩ := does
  exact ⟨new ++ more, attempted.trans later, same, by rwa [← List.append_assoc]⟩

theorem does_after (now : Nat) {n : Notice} {last : Bool}
    (going : Going (told.map Notice.toTransition))
    (split : told = handled ++ n :: pending) (is_last : last = n.isLast) (idle : r.writing = none)
    (written : Written l.run r.policy.most store
      ((handled ++ [n]).filterMap (RecordWrite.ofNotice? r.options)) log l.dropped l.store)
    (later : Does store told log r l (r.handleAll now pending l)) :
    Does store told log r l (if last then ({ r with inbox := .closed, isOver := true }, l)
      else r.handleAll now pending l) := by
  split
  · rename_i ends
    rw [is_last] at ends
    obtain rfl := nil_of_isLast (split ▸ going) ends
    refine ⟨[], .nil l, ⟨rfl, rfl⟩, fun unended => ?_, ?_⟩
    · have ended := unended n (by simp [split])
      simp [Transition.isLast, ended] at ends
    · simp only [idle, List.append_nil]
      exact .free (by simp [split, Inbox.closed]) written
  · exact later

theorem handleAll_does (now : Nat) (going : Going (told.map Notice.toTransition))
    (split : told = handled ++ pending)
    (written : Written l.run r.policy.most store
      (handled.filterMap (RecordWrite.ofNotice? r.options)) log l.dropped l.store)
    (opens : (∀ n ∈ told, n.target.isTerminal = false) → r.inbox.isOpen = true)
    (idle : r.writing = none) : Does store told log r l (r.handleAll now pending l) := by
  induction pending generalizing handled log l with
  | nil =>
    refine ⟨[], .nil l, ⟨rfl, rfl⟩, opens, ?_⟩
    simp only [handleAll, idle, List.append_nil]
    exact .free split written
  | cons n rest ih =>
    have next : told = (handled ++ [n]) ++ rest := by rw [split, List.append_assoc]; rfl
    unfold handleAll
    dsimp only
    cases entry : RecordWrite.ofNotice? r.options n with
    | none =>
      have written : Written l.run r.policy.most store ((handled ++ [n]).filterMap
          (RecordWrite.ofNotice? r.options)) log l.dropped l.store := by
        simpa [List.filterMap_append, entry] using written
      exact does_after now going split rfl idle written (ih next written)
    | some write =>
      dsimp only
      have count : ([] : List LoggedWrite).length + ((Backoff.start r.policy).left + 1)
          = r.policy.most := by
        rw [List.length_nil, Nat.zero_add, r.policy.left_start]
      have untried : ∀ b ∈ ([] : List LoggedWrite), b.Fails l.run l.store write :=
        List.forall_mem_nil _
      have tried := supply_tried now r.policy.delay written untried count
      generalize supply now write r.policy.delay (Backoff.start r.policy).left l = supplied
        at tried ⊢
      cases tried with
      | @done new l' attempted made =>
        have written' : Written l'.run r.policy.most store ((handled ++ [n]).filterMap
            (RecordWrite.ofNotice? r.options)) (log ++ new) l'.dropped l'.store := by
          rw [attempted.run]
          simpa [List.filterMap_append, entry] using made
        exact .after attempted (does_after now going split rfl idle written' (ih next written'))
      | @unfinished new l' stay attempted underway kept same =>
        refine ⟨new, attempted, ⟨rfl, rfl⟩, opens, ?_⟩
        dsimp only
        rw [attempted.run, kept, same]
        exact .waiting split entry rfl written underway

theorem Keeps.work (keeps : Keeps store told log r l) (going : Going (told.map Notice.toTransition))
    (now : Nat) : Does store told log r l (r.work now l) := by
  have opens := keeps.opens
  have progress := keeps.progress
  unfold Recorder.work
  generalize pends : r.inbox.pending = pending, waits : r.writing = writing at progress
  cases progress with
  | free split written =>
    exact handleAll_does now going split written opens waits
  | @waiting handled _ n w earlier past _ _ split entry last written underway =>
    dsimp only
    split
    · exact ⟨[], .nil l, ⟨rfl, rfl⟩, by simpa using keeps⟩
    · have tried := goOn_tried now r.policy.delay written underway
      generalize goOn now w.write r.policy.delay w.stay l = supplied at tried ⊢
      cases tried with
      | @done new l' attempted made =>
        dsimp only
        have next : told = (handled ++ [n]) ++ pending := by rw [split, List.append_assoc]; rfl
        have written' : Written l'.run r.policy.most store ((handled ++ [n]).filterMap
            (RecordWrite.ofNotice? r.options)) (earlier ++ past ++ new) l'.dropped l'.store := by
          rw [attempted.run]
          simpa [List.filterMap_append, entry] using made
        -- Nothing is waited for any more.
        have does := does_after (r := { r with writing := none }) now going split last rfl written'
          (handleAll_does now going next written' opens rfl)
        obtain ⟨more, later, ⟨options, policy⟩, keeps⟩ := does
        exact .after attempted ⟨more, later, ⟨options, policy⟩, keeps⟩
      | @unfinished new l' stay attempted underway kept same =>
        refine ⟨new, attempted, ⟨rfl, rfl⟩, opens, ?_⟩
        dsimp only
        rw [attempted.run, kept, same, pends, List.append_assoc]
        exact .waiting split entry last written underway

theorem Keeps.partly_written (keeps : Keeps store told log r l) :
    PartlyWritten l.run r.policy.most store
      (told.filterMap (RecordWrite.ofNotice? r.options)) log l.dropped l.store := by
  have progress := keeps.progress
  generalize r.inbox.pending = pending, r.writing = writing at progress
  have allowed : 0 < r.policy.most := Nat.lt_of_lt_of_le Nat.one_pos (Nat.le_max_left _ _)
  cases progress with
  | free split written =>
    exact ⟨_, _, log, [], none, by rw [split, List.filterMap_append], by simp, written, allowed,
      by simp, by simp⟩
  | @waiting handled pending n w earlier past _ _ split entry last written underway =>
    have first : ((n :: pending).filterMap (RecordWrite.ofNotice? r.options)).head?
        = some w.write := by
      rw [List.filterMap_cons_some entry, List.head?_cons]
    have split : told.filterMap (RecordWrite.ofNotice? r.options)
        = handled.filterMap (RecordWrite.ofNotice? r.options)
          ++ (n :: pending).filterMap (RecordWrite.ofNotice? r.options) := by
      rw [split, List.filterMap_append]
    cases underway with
    | @asked failed a pause failing asks count =>
      refine ⟨_, _, earlier, failed, some a, split, rfl, written, by omega, ?_, ?_⟩
      · exact fun b mem => ⟨w.write, first, failing b mem⟩
      · simp [first, asks]
    | resting pause failing count =>
      refine ⟨_, _, earlier, past, none, split, by simp, written, by omega, ?_, by simp⟩
      exact fun b mem => ⟨w.write, first, failing b mem⟩

theorem Keeps.written (keeps : Keeps store told log r l) (nothing_pending : r.inbox.pending = [])
    (nothing_waiting : r.writing = none) :
    Written l.run r.policy.most store
      (told.filterMap (RecordWrite.ofNotice? r.options)) log l.dropped l.store := by
  have progress := keeps.progress
  rw [nothing_pending, nothing_waiting] at progress
  cases progress with
  | free split written => rwa [split, List.append_nil]

/-! ### A willing store -/

/-- Whether so many attempts will be accepted at once, and there is a record that can be changed. -/
structure Willing (l : Ledger) (count : Nat) : Prop where
  accepts : ∀ i < count, l.refuses (l.attempts + i) = false ∧ l.delays (l.attempts + i) = some 0
  found : ∀ s, l.store = some s → ∃ record,
    RecordStore.get? s l.run = .ok (some record) ∧ record.run = l.run

theorem Willing.next {count : Nat} {l' : Ledger} (willing : Willing l (count + 1))
    (refuses : l'.refuses = l.refuses) (delays : l'.delays = l.delays)
    (attempts : l'.attempts = l.attempts + 1)
    (found : ∀ s, l'.store = some s → ∃ record,
      RecordStore.get? s l'.run = .ok (some record) ∧ record.run = l'.run) : Willing l' count := by
  refine ⟨?_, found⟩
  intro i within
  have accepted := willing.accepts (i + 1) (Nat.succ_lt_succ within)
  rw [refuses, delays, attempts, Nat.add_assoc, Nat.add_comm 1 i]
  exact accepted

theorem Willing.attempt {count : Nat} (willing : Willing l (count + 1)) (now : Nat)
    (write : RecordWrite) (left : Nat) (otherwise : Ledger → Ledger × Option Stay) :
    ∃ l', attempt now write left otherwise l = (l', none) ∧ Willing l' count ∧
      l'.dropped = l.dropped := by
  obtain ⟨accepted, prompt⟩ := willing.accepts 0 count.succ_pos
  rw [Nat.add_zero] at accepted prompt
  simp only [Recorder.attempt, Ledger.attempt, accepted, prompt, if_true, heed, Ledger.conclude,
    Bool.not_false, Ledger.persist]
  cases kept : l.store with
  | none =>
    refine ⟨_, rfl, willing.next rfl rfl rfl ?_, rfl⟩
    rintro s ⟨⟩
  | some s =>
    obtain ⟨record, found, same⟩ := willing.found s kept
    dsimp only
    rw [RecordStore.write_of_found found same]
    refine ⟨_, rfl, willing.next rfl rfl rfl ?_, rfl⟩
    rintro s' ⟨⟩
    exact ⟨_, RecordStore.get?_write found same (RecordStore.write_of_found found same),
      (RecordWrite.amend_run _ _).trans same⟩

theorem Willing.handleAll {count : Nat} (willing : Willing l count) (idle : r.writing = none)
    (now : Nat) (pending : List Notice) (enough : pending.length ≤ count) :
    ∃ r' l', r.handleAll now pending l = (r', l') ∧ r'.inbox.pending = [] ∧ r'.writing = none ∧
      l'.dropped = l.dropped := by
  induction pending generalizing l count with
  | nil => exact ⟨_, l, rfl, rfl, idle, rfl⟩
  | cons n rest ih =>
    obtain ⟨count, rfl⟩ := Nat.exists_eq_add_of_le' (Nat.le_trans (Nat.succ_pos _) enough)
    have after {l' : Ledger} (willing : Willing l' count) (kept : l'.dropped = l.dropped) :
        ∃ r' l'', (if n.isLast then ({ r with inbox := .closed, isOver := true }, l')
          else r.handleAll now rest l') = (r', l'') ∧
          r'.inbox.pending = [] ∧ r'.writing = none ∧ l''.dropped = l.dropped := by
      split
      · exact ⟨_, _, rfl, rfl, idle, kept⟩
      · rw [← kept]
        exact ih willing (Nat.le_of_succ_le_succ enough)
    unfold Recorder.handleAll
    dsimp only
    cases RecordWrite.ofNotice? r.options n with
    | none => exact after ⟨fun i within => willing.accepts i (Nat.lt_succ_of_lt within), willing.found⟩ rfl
    | some write =>
      obtain ⟨l', supplied, willing', kept⟩ := willing.attempt now write (Backoff.start r.policy).left
        (retry now write r.policy.delay (Backoff.start r.policy).left)
      dsimp only
      rw [supply, supplied]
      exact after willing' kept

theorem Willing.work {count : Nat} (willing : Willing l (count + 1)) {w : Writing}
    (writing : r.writing = some w) (pause : w.stay.pause = .backoff) {now : Nat}
    (up : isUp now w.stay.dueAt = true) (enough : r.inbox.pending.length ≤ count) :
    ∃ r' l', r.work now l = (r', l') ∧ r'.inbox.pending = [] ∧ r'.writing = none ∧
      l'.dropped = l.dropped := by
  obtain ⟨l', supplied, willing', kept⟩ := willing.attempt now w.write w.stay.left
    (retry now w.write r.policy.delay w.stay.left)
  simp only [Recorder.work, writing, up, Bool.not_true, Bool.false_eq_true, if_false, goOn, pause,
    supply, supplied]
  split
  · exact ⟨_, _, rfl, rfl, rfl, kept⟩
  · rw [← kept]
    exact willing'.handleAll (r := { r with writing := none }) rfl now _ enough

theorem Keeps.found {first : Notice} {rest : List Notice} {w : Writing}
    (keeps : Keeps store (first :: rest) log r l) (begins : first.source = none)
    (none_dropped : l.dropped = 0) (writing : r.writing = some w)
    (other : RecordWrite.ofNotice? r.options first ≠ some w.write) {s : RecordStore}
    (kept : l.store = some s) :
    ∃ record, RecordStore.get? s l.run = .ok (some record) ∧ record.run = l.run := by
  have progress := keeps.progress
  rw [none_dropped, kept, writing] at progress
  generalize r.inbox.pending = pending at progress
  cases progress with
  | @waiting handled _ n _ _ _ _ _ split entry _ written _ =>
    cases handled with
    | nil =>
      cases split
      exact absurd entry other
    | cons head handled =>
      cases split
      have start : RecordWrite.ofNotice? r.options first = some (.start r.options.runId.createdSecs
          r.options.systemArgs r.options.userArgs) := by
        rw [RecordWrite.ofNotice?, begins]
      rw [List.filterMap_cons_some start] at written
      exact ⟨_, written.record, RecordWrite.foldl_amend_run _ _⟩

end Recorder
end FlowRuntime
