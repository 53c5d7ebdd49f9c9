import FlowRuntime.Proofs.Record.Store
import FlowRuntime.Record.Archive

/-!
The archive is a map of records. Its calls are followed on a map from displayed runs to
records, where a start replaces a record and any other write amends the one that is there;
the tree holds the text of each record of the map and nothing else. A record stays under the
display of the run it holds, since no write amends the run. Displays end in the run's
identifier, so calls for one identifier leave the records of all others alone.
-/
namespace FlowRuntime

/-! ## Keys -/

theorem Uuid.text_inj {u v : Uuid} (same : u.text = v.text) : u = v := by
  have read : parse? u.text = parse? v.text := by rw [same]
  rw [parse?_text, parse?_text] at read
  exact Option.some.inj read

theorem Uuid.length_text (u : Uuid) : u.text.toList.length = 36 := by
  simp [text, u.length_digits]

theorem ProgramRunId.id_eq_of_text {r r' : ProgramRunId} (same : r.text = r'.text) :
    r.run.id = r'.run.id := by
  have chars : (r.program.text.toList ++ ['/']) ++ r.run.id.text.toList
      = (r'.program.text.toList ++ ['/']) ++ r'.run.id.text.toList := by
    have spelled := congrArg String.toList same
    simpa [ProgramRunId.text, RunId.text] using spelled
  have tails := (List.append_inj' chars (by rw [Uuid.length_text, Uuid.length_text])).2
  exact Uuid.text_inj (String.toList_inj.mp tails)

/-! ## Calls on a map of records -/

namespace ArchiveCall

def follow (m : SortedMap String RunRecord) : ArchiveCall → SortedMap String RunRecord
  | .write run (.start secs systemArgs userArgs) =>
    m.insert run.text ⟨run, secs, none, .running, none, systemArgs, userArgs⟩
  | .write run w =>
    match m.get? run.text with
    | none => m
    | some record => m.insert run.text (w.amend record)
  | .get _ => m
  | .reopen => m

def answer (m : SortedMap String RunRecord) : ArchiveCall → ArchiveAnswer
  | .write _ (.start ..) => .done
  | .write run _ => if m.contains run.text then .done else .failed (.noRecord run)
  | .get run => .found (m.get? run.text)
  | .reopen => .done

def answers (m : SortedMap String RunRecord) : List ArchiveCall → List ArchiveAnswer
  | [] => []
  | c :: rest => c.answer m :: answers (c.follow m) rest

/-- The calls that say nothing of another identifier. -/
def concerns (id : Uuid) : ArchiveCall → Bool
  | .write run _ => run.run.id = id
  | .get run => run.run.id = id
  | .reopen => true

theorem follow_of_not_concerns {m : SortedMap String RunRecord} {c : ArchiveCall}
    {run : ProgramRunId} (other : c.concerns run.run.id = false) :
    (c.follow m).get? run.text = m.get? run.text := by
  have apart {r : ProgramRunId} (distinct : ¬ r.run.id = run.run.id) : run.text ≠ r.text :=
    fun same => distinct (ProgramRunId.id_eq_of_text same).symm
  cases c with
  | get | reopen => rfl
  | write r w =>
    have distinct : ¬ r.run.id = run.run.id := by simpa [concerns] using other
    cases w with
    | start secs systemArgs userArgs => exact m.get?_insert_ne (apart distinct) _
    | suspend | resume | stop =>
      simp only [follow]
      split
      · rfl
      · exact m.get?_insert_ne (apart distinct) _

theorem follow_congr {m m' : SortedMap String RunRecord} {id : Uuid} {c : ArchiveCall}
    (own : c.concerns id = true)
    (agree : ∀ run : ProgramRunId, run.run.id = id → m.get? run.text = m'.get? run.text)
    (run : ProgramRunId) (same : run.run.id = id) :
    (c.follow m).get? run.text = (c.follow m').get? run.text := by
  cases c with
  | get | reopen => exact agree run same
  | write r w =>
    have mine : r.run.id = id := by simpa [concerns] using own
    have found := agree r mine
    cases w with
    | start secs systemArgs userArgs => simp only [follow, SortedMap.get?_insert, agree run same]
    | suspend | resume | stop =>
      simp only [follow, found]
      split
      · exact agree run same
      · simp only [SortedMap.get?_insert, agree run same]

theorem foldl_follow_filter {id : Uuid} (calls : List ArchiveCall)
    {m m' : SortedMap String RunRecord}
    (agree : ∀ run : ProgramRunId, run.run.id = id → m.get? run.text = m'.get? run.text)
    (run : ProgramRunId) (same : run.run.id = id) :
    ((calls.filter (·.concerns id)).foldl follow m).get? run.text
      = (calls.foldl follow m').get? run.text := by
  induction calls generalizing m m' with
  | nil => exact agree run same
  | cons c rest ih =>
    by_cases own : c.concerns id = true
    · rw [List.filter_cons_of_pos own, List.foldl_cons, List.foldl_cons]
      exact ih (follow_congr own agree)
    · rw [List.filter_cons_of_neg own, List.foldl_cons]
      apply ih
      intro r mine
      subst mine
      rw [agree r rfl, follow_of_not_concerns (by simpa using own)]

end ArchiveCall

/-! ## The archive and the map -/

/-- The disk has what the tree has: the text of each record of the map, under the display of
the run that the record holds. -/
structure Archive.Holds (a : Archive) (m : SortedMap String RunRecord) : Prop where
  flushed : a.disk = a.tree
  stored : ∀ key, SortedMap.get? a.tree key = (m.get? key).map (·.toJson.render)
  keyed : ∀ key record, m.get? key = some record → record.run.text = key

namespace Archive
variable {a : Archive} {m : SortedMap String RunRecord}

theorem holds_fresh : Holds fresh .empty := by
  constructor
  · rfl
  · intro key
    rfl
  · intro key record found
    cases found

theorem Holds.get? (holds : Holds a m) (run : ProgramRunId) :
    RecordStore.get? a.tree run = .ok (m.get? run.text) := by
  rw [RecordStore.get?, holds.stored]
  cases m.get? run.text with
  | none => rfl
  | some record => simp [Json.parse?_render, RunRecord.read?_toJson]

theorem Holds.put (holds : Holds a m) (record : RunRecord) :
    Holds (flush { a with tree := RecordStore.put a.tree record })
      (m.insert record.run.text record) := by
  constructor
  · rfl
  · intro key
    simp only [flush, RecordStore.put, SortedMap.get?_insert]
    split
    · rfl
    · exact holds.stored key
  · intro key r found
    rw [SortedMap.get?_insert] at found
    split at found
    · rename_i here
      cases found
      exact here.symm
    · exact holds.keyed key r found

theorem Holds.reopened (holds : Holds a m) : a.reopen = a := by
  obtain ⟨tree, disk⟩ := a
  have same : disk = tree := holds.flushed
  simp only [reopen, same]

theorem Holds.write_of_amends (holds : Holds a m) {run : ProgramRunId} {w : RecordWrite}
    {change : RunRecord → RunRecord} (changes : ∀ r, change r = w.amend r)
    (updates : a.tree.write run w = RecordStore.update a.tree run change) :
    match m.get? run.text with
    | none => a.perform (.write run w) = (.failed (.noRecord run), a)
    | some record => ∃ a', a.perform (.write run w) = (.done, a')
        ∧ Holds a' (m.insert run.text (w.amend record)) := by
  have got := holds.get? run
  cases found : m.get? run.text with
  | none =>
    rw [found] at got
    simp only [perform, updates, RecordStore.update, got]
  | some record =>
    rw [found] at got
    have kept := holds.put (w.amend record)
    rw [RecordWrite.amend_run, holds.keyed _ _ found] at kept
    refine ⟨_, ?_, kept⟩
    simp only [perform, updates, RecordStore.update, got, changes]

theorem Holds.perform (holds : Holds a m) (c : ArchiveCall) :
    ∃ a', a.perform c = (c.answer m, a') ∧ Holds a' (c.follow m) := by
  have amends {run : ProgramRunId} {w : RecordWrite} {change : RunRecord → RunRecord}
      (changes : ∀ r, change r = w.amend r)
      (updates : a.tree.write run w = RecordStore.update a.tree run change) :
      ∃ a', a.perform (.write run w)
          = (if m.contains run.text then .done else .failed (.noRecord run), a')
        ∧ Holds a' (match m.get? run.text with
          | none => m
          | some record => m.insert run.text (w.amend record)) := by
    have written := holds.write_of_amends changes updates
    cases found : m.get? run.text with
    | none =>
      rw [found] at written
      exact ⟨a, by simpa [SortedMap.contains, found] using written, holds⟩
    | some record =>
      rw [found] at written
      obtain ⟨a', performed, kept⟩ := written
      exact ⟨a', by simpa [SortedMap.contains, found] using performed, kept⟩
  cases c with
  | get run =>
    refine ⟨a, ?_, holds⟩
    simp only [Archive.perform, holds.get?, ArchiveCall.answer]
  | reopen =>
    refine ⟨a, ?_, holds⟩
    rw [Archive.perform, holds.reopened, ArchiveCall.answer]
  | write run w =>
    cases w with
    | start secs systemArgs userArgs => exact ⟨_, rfl, holds.put ⟨run, _, _, _, _, _, _⟩⟩
    | suspend | resume | stop => exact amends (fun _ => rfl) rfl

theorem Holds.play (holds : Holds a m) (calls : List ArchiveCall) :
    ∃ a', a.play calls = (ArchiveCall.answers m calls, a')
      ∧ Holds a' (calls.foldl ArchiveCall.follow m) := by
  induction calls generalizing a m with
  | nil => exact ⟨a, rfl, holds⟩
  | cons c rest ih =>
    obtain ⟨a₁, performed, kept⟩ := holds.perform c
    obtain ⟨a₂, played, held⟩ := ih kept
    refine ⟨a₂, ?_, held⟩
    simp only [Archive.play, performed, played, ArchiveCall.answers]

/-- Calls on a fresh archive are answered as a map of records answers them, and `get?` finds
what they leave in the map. No record lies under another key than its own, opening the archive
again changes nothing, and for the records of one identifier the calls that concern others
might as well not have been made. -/
theorem fresh_is_map (calls : List ArchiveCall) :
    ∃ a, fresh.play calls = (ArchiveCall.answers .empty calls, a) ∧ a.reopen = a
      ∧ (∀ run, RecordStore.get? a.tree run
          = .ok ((calls.foldl ArchiveCall.follow .empty).get? run.text))
      ∧ (∀ key, ((calls.foldl ArchiveCall.follow .empty).get? key).all (·.run.text = key))
      ∧ ∀ run : ProgramRunId,
          RecordStore.get? (fresh.play (calls.filter (·.concerns run.run.id))).2.tree run
            = RecordStore.get? a.tree run := by
  obtain ⟨a, played, holds⟩ := holds_fresh.play calls
  refine ⟨a, played, holds.reopened, holds.get?, fun key => ?_, fun run => ?_⟩
  · cases found : (calls.foldl ArchiveCall.follow .empty).get? key with
    | none => rfl
    | some record => simpa using holds.keyed key record found
  · obtain ⟨a', played', holds'⟩ := holds_fresh.play (calls.filter (·.concerns run.run.id))
    rw [played', holds'.get?, holds.get?,
      ArchiveCall.foldl_follow_filter calls (fun _ _ => rfl) run rfl]

end Archive
end FlowRuntime
