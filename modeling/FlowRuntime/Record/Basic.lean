import FlowRuntime.Document.Basic

/-!
The durable record of a run: when it started, what it was given, how it stands
and, once it has ended, when and why.
-/
namespace FlowRuntime

inductive RunStatus where
  | running
  | suspended
  | completed
  | killed
  | failed
  deriving DecidableEq, Inhabited

namespace RunStatus

def all : List RunStatus := [.running, .suspended, .completed, .killed, .failed]

def text : RunStatus → String
  | .running => "running"
  | .suspended => "suspended"
  | .completed => "completed"
  | .killed => "killed"
  | .failed => "failed"

def ofText? (s : String) : Option RunStatus := all.find? (·.text = s)

end RunStatus

structure RunRecord where
  run : ProgramRunId
  startSecs : Int64
  stopSecs : Option Int64
  status : RunStatus
  failure : Option String
  systemArgs : Args
  userArgs : Args
  deriving DecidableEq, Inhabited

def ProgramType.ofText? (s : String) : Option ProgramType := ProgramType.all.find? (·.text = s)

variable {δ : Type} [Document δ]
open Document

def ProgramType.read? (d : δ) : Option ProgramType := (unit? d).bind ofText?

def RunStatus.read? (d : δ) : Option RunStatus := (unit? d).bind ofText?

def ProgramId.read? (d : δ) : Option ProgramId := do
  let fields ← fields? ["namespace", "application", "program_type", "name"] d
  let namespaceName ← required text? fields "namespace"
  let application ← required text? fields "application"
  let programType ← required ProgramType.read? fields "program_type"
  let name ← required text? fields "name"
  some ⟨namespaceName, application, programType, name⟩

def Uuid.read? (d : δ) : Option Uuid := (text? d).bind parse?

def RunId.read? (d : δ) : Option RunId := do
  let fields ← fields? ["id", "created_secs"] d
  let id ← required Uuid.read? fields "id"
  let createdSecs ← required int64? fields "created_secs"
  some ⟨id, createdSecs⟩

def ProgramRunId.read? (d : δ) : Option ProgramRunId := do
  let fields ← fields? ["program", "run"] d
  let program ← required ProgramId.read? fields "program"
  let run ← required RunId.read? fields "run"
  some ⟨program, run⟩

def RunRecord.read? (d : δ) : Option RunRecord := do
  let fields ← fields?
    ["run", "start_secs", "stop_secs", "status", "failure", "system_args", "user_args"] d
  let run ← required ProgramRunId.read? fields "run"
  let startSecs ← required int64? fields "start_secs"
  let stopSecs ← defaulted (nullable int64?) none fields "stop_secs"
  let status ← required RunStatus.read? fields "status"
  let failure ← defaulted (nullable text?) none fields "failure"
  let systemArgs ← defaulted args? .empty fields "system_args"
  let userArgs ← defaulted args? .empty fields "user_args"
  some ⟨run, startSecs, stopSecs, status, failure, systemArgs, userArgs⟩

end FlowRuntime
