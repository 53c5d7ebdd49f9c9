import FlowRuntime.Document.Spec
import FlowRuntime.Json.Reader
import FlowRuntime.Json.Writer
import FlowRuntime.Record.Basic

/-!
Specs, identities and run records as JSON. Reading follows the rules of
`Document`; an alternative that holds something is an object of one member, one
that holds nothing a text, or an object of one empty member. Writing gives every
field, those left to their defaults included.
-/
namespace FlowRuntime
namespace Json

def text? : Json → Option String
  | .text s => s
  | _ => none

def integer? : Json → Option Int
  | .number n => n
  | _ => none

def isNull : Json → Bool
  | .null => true
  | _ => false

def items? : Json → Option (List Json)
  | .array items => some items
  | _ => none

def members? : Json → Option (List (Option String × Json))
  | .object members => some members
  | _ => none

def variant? : Json → Option (String × Json)
  | .object [(some key, v)] => some (key, v)
  | _ => none

def unit? : Json → Option String
  | .text s => s
  | .object [(key, .null)] => key
  | _ => none

instance : Document Json where
  text? := text?
  integer? := integer?
  isNull := isNull
  items? := items?
  members? := members?
  variant? := variant?
  unit? := unit?

def ofArgs (args : Args) : Json := record (args.entries.map fun e => (e.1, ofText e.2))

def ofOption {α : Type} (write : α → Json) : Option α → Json
  | none => .null
  | some a => write a

def ofInt64 (n : Int64) : Json := ofInt n.toInt

end Json

open Json

def StageSpec.toJson (s : StageSpec) : Json :=
  record [("name", ofText s.name), ("instances", ofNat s.instances.toNat), ("args", ofArgs s.args)]

def ConnectionSource.toJson : ConnectionSource → Json
  | .stream s => record [("stream", ofText s)]
  | .stage s => record [("stage", ofText s)]

def FlowConnection.toJson (c : FlowConnection) : Json :=
  record [("from", c.source.toJson), ("to", ofText c.target), ("output", ofText c.output)]

def FlowSpec.toJson (f : FlowSpec) : Json :=
  record [("name", ofText f.name), ("stages", .array (f.stages.map StageSpec.toJson)),
    ("connections", .array (f.connections.map FlowConnection.toJson))]

def ApplicationSpec.toJson (a : ApplicationSpec) : Json :=
  record [("namespace", ofText a.namespaceName), ("name", ofText a.name),
    ("flows", .array (a.flows.map FlowSpec.toJson))]

def ProgramId.toJson (p : ProgramId) : Json :=
  record [("namespace", ofText p.namespaceName), ("application", ofText p.application),
    ("program_type", ofText p.programType.text), ("name", ofText p.name)]

def RunId.toJson (r : RunId) : Json :=
  record [("id", ofText r.id.text), ("created_secs", ofInt64 r.createdSecs)]

def ProgramRunId.toJson (r : ProgramRunId) : Json :=
  record [("program", r.program.toJson), ("run", r.run.toJson)]

def RunRecord.toJson (r : RunRecord) : Json :=
  record [("run", r.run.toJson), ("start_secs", ofInt64 r.startSecs),
    ("stop_secs", ofOption ofInt64 r.stopSecs), ("status", ofText r.status.text),
    ("failure", ofOption ofText r.failure), ("system_args", ofArgs r.systemArgs),
    ("user_args", ofArgs r.userArgs)]

end FlowRuntime
