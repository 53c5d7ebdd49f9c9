import FlowRuntime.Failure
import FlowRuntime.Json.Codec
import FlowRuntime.Instance.Options
import FlowRuntime.Run.State

/-!
The durable store of run records. It keeps the JSON text of each record under the
run's displayed name, which leaves out when the run was made. A change of a
record reads it, and writes it back under the name of the run that the record
itself holds. `RecordWrite.ofNotice?` says what a change of state leaves in the record.
-/
namespace FlowRuntime

abbrev RecordStore := SortedMap String String

inductive RecordWrite where
  | start (secs : Int64) (systemArgs userArgs : Args)
  | suspend
  | resume
  | stop (secs : Int64) (status : RunStatus) (failure : Option String)
  deriving DecidableEq, Inhabited

namespace RecordStore

def get? (s : RecordStore) (run : ProgramRunId) : Except Failure (Option RunRecord) :=
  match SortedMap.get? s run.text with
  | none => .ok none
  | some text =>
    match (Json.parse? text).bind RunRecord.read? with
    | some record => .ok (some record)
    | none => .error .unreadableRecord

def put (s : RecordStore) (record : RunRecord) : RecordStore :=
  SortedMap.insert s record.run.text record.toJson.render

def update (s : RecordStore) (run : ProgramRunId) (change : RunRecord → RunRecord) :
    Except Failure RecordStore :=
  match get? s run with
  | .error e => .error e
  | .ok none => .error (.noRecord run)
  | .ok (some record) => .ok (put s (change record))

def write (s : RecordStore) (run : ProgramRunId) : RecordWrite → Except Failure RecordStore
  | .start secs systemArgs userArgs =>
    .ok (put s ⟨run, secs, none, .running, none, systemArgs, userArgs⟩)
  | .suspend => update s run fun r => { r with status := .suspended }
  | .resume => update s run fun r => { r with status := .running }
  | .stop secs status failure =>
    update s run fun r => { r with stopSecs := some secs, status := status, failure := failure }

end RecordStore

/-- What is written of a run when a listener hears of this. -/
def RecordWrite.ofNotice? (options : RunOptions) (n : Notice) : Option RecordWrite :=
  match n.source, n.target with
  | none, _ => some (.start options.runId.createdSecs options.systemArgs options.userArgs)
  | some _, .suspended => some .suspend
  | some _, .resuming => some .resume
  | some _, .stopped => some (.stop n.secs .killed none)
  | some _, .error => some (.stop n.secs .failed n.cause)
  | some _, _ => none

end FlowRuntime
