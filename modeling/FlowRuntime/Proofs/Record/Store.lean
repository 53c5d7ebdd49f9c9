import FlowRuntime.Proofs.Record.Codec
import FlowRuntime.Record.Store

/-!
What writes make of a record. A record that is put into the store is found there under the
name of its run, so that a change of a record that is found always goes through and is found
afterwards.
-/
namespace FlowRuntime

def RecordWrite.amend (r : RunRecord) : RecordWrite → RunRecord
  | .start secs systemArgs userArgs => ⟨r.run, secs, none, .running, none, systemArgs, userArgs⟩
  | .suspend => { r with status := .suspended }
  | .resume => { r with status := .running }
  | .stop secs status failure => { r with stopSecs := some secs, status := status, failure := failure }

@[simp] theorem RecordWrite.amend_run (r : RunRecord) (w : RecordWrite) : (w.amend r).run = r.run := by
  cases w <;> rfl

theorem RecordWrite.foldl_amend_run (writes : List RecordWrite) (r : RunRecord) :
    (writes.foldl amend r).run = r.run := by
  induction writes generalizing r with
  | nil => rfl
  | cons w rest ih => rw [List.foldl_cons, ih, amend_run]

namespace RecordStore
variable {s s' : RecordStore} {run : ProgramRunId} {record : RunRecord} {w : RecordWrite}

theorem get?_put (s : RecordStore) (record : RunRecord) :
    get? (put s record) record.run = .ok (some record) := by
  simp [get?, put, Json.parse?_render, RunRecord.read?_toJson]

theorem write_of_found (found : get? s run = .ok (some record)) (same : record.run = run) :
    write s run w = .ok (put s (w.amend record)) := by
  cases w with
  | start secs systemArgs userArgs => rw [write, RecordWrite.amend, same]
  | suspend | resume | stop => simp [write, update, found, RecordWrite.amend]

theorem get?_write (found : get? s run = .ok (some record)) (same : record.run = run)
    (written : write s run w = .ok s') : get? s' run = .ok (some (w.amend record)) := by
  rw [write_of_found found same] at written
  cases written
  have put := get?_put s (w.amend record)
  rwa [RecordWrite.amend_run, same] at put

theorem get?_write_start {secs : Int64} {systemArgs userArgs : Args}
    (written : write s run (.start secs systemArgs userArgs) = .ok s') :
    get? s' run = .ok (some ⟨run, secs, none, .running, none, systemArgs, userArgs⟩) := by
  cases written
  exact get?_put s ⟨run, secs, none, .running, none, systemArgs, userArgs⟩

theorem get?_write_of_absent (absent : get? s run = .ok none) (written : write s run w = .ok s') :
    ∃ record, get? s' run = .ok (some record) ∧ record.run = run := by
  cases w with
  | start secs systemArgs userArgs => exact ⟨_, get?_write_start written, rfl⟩
  | suspend | resume | stop => simp [write, update, absent] at written

end RecordStore
end FlowRuntime
