import FlowRuntime.Run.Basic
import FlowRuntime.Text.Quoted

/-!
A run in one line, for those who look for faults: its identity, in full, and its
state.
-/
namespace FlowRuntime

/-- A name with its first letter in upper case; all names here are plain letters. -/
def capitalized (s : String) : String :=
  match s.toList with
  | [] => ""
  | c :: rest => String.ofList (c.toUpper :: rest)

def block (name : String) (fields : List (String × String)) : String :=
  name ++ " \x7b " ++ ", ".intercalate (fields.map fun f => f.1 ++ ": " ++ f.2) ++ " \x7d"

def ProgramId.description (p : ProgramId) : String :=
  block "ProgramId" [("namespace", Text.quote p.namespaceName),
    ("application", Text.quote p.application),
    ("program_type", capitalized p.programType.text), ("name", Text.quote p.name)]

def ProgramRunId.description (r : ProgramRunId) : String :=
  block "ProgramRunId" [("program", r.program.description),
    ("run", block "RunId" [("id", r.run.text), ("created_secs", toString r.run.createdSecs.toInt)])]

def Run.description (r : Run) : String :=
  block "FlowController" [("run", r.context.run.description), ("state", capitalized r.state.text)]

end FlowRuntime
