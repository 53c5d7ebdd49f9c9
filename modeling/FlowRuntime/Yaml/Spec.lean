import FlowRuntime.Yaml.Repetition

/-!
Application specs as YAML text.
-/
namespace FlowRuntime
open Yaml

def StageSpec.shape : Shape :=
  .record [("name", .scalar), ("instances", .scalar), ("args", .scalars)]

def FlowConnection.shape : Shape :=
  .record [("from", .scalars), ("to", .scalar), ("output", .scalar)]

def FlowSpec.shape : Shape :=
  .record [("name", .scalar), ("stages", .list StageSpec.shape),
    ("connections", .list FlowConnection.shape)]

def ApplicationSpec.shape : Shape :=
  .record [("namespace", .scalar), ("name", .scalar), ("flows", .list FlowSpec.shape)]

def ApplicationSpec.ofYaml? (text : String) : Option ApplicationSpec := do
  let e ← Excerpt.ofText? text
  let _ ← Excerpt.followAll? ApplicationSpec.shape e (100 * e.node.length)
  ApplicationSpec.read? e

end FlowRuntime
