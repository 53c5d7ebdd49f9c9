import FlowRuntime.Document.Basic

/-!
Application specs read from structured text.
-/
namespace FlowRuntime
variable {δ : Type} [Document δ]
open Document

def StageSpec.read? (d : δ) : Option StageSpec := do
  let fields ← fields? ["name", "instances", "args"] d
  let name ← required text? fields "name"
  let instances ← defaulted uint32? defaultInstances fields "instances"
  let args ← defaulted args? .empty fields "args"
  some ⟨name, instances, args⟩

def ConnectionSource.read? (d : δ) : Option ConnectionSource :=
  match variant? d with
  | some ("stream", name) => (text? name).map .stream
  | some ("stage", name) => (text? name).map .stage
  | _ => none

def FlowConnection.read? (d : δ) : Option FlowConnection := do
  let fields ← fields? ["from", "to", "output"] d
  let source ← required ConnectionSource.read? fields "from"
  let target ← required text? fields "to"
  let output ← defaulted text? defaultOutput fields "output"
  some ⟨source, target, output⟩

def FlowSpec.read? (d : δ) : Option FlowSpec := do
  let fields ← fields? ["name", "stages", "connections"] d
  let name ← required text? fields "name"
  let stages ← required (list? StageSpec.read?) fields "stages"
  let connections ← defaulted (list? FlowConnection.read?) [] fields "connections"
  some ⟨name, stages, connections⟩

def ApplicationSpec.read? (d : δ) : Option ApplicationSpec := do
  let fields ← fields? ["namespace", "name", "flows"] d
  let namespaceName ← defaulted text? defaultNamespace fields "namespace"
  let name ← required text? fields "name"
  let flows ← defaulted (list? FlowSpec.read?) [] fields "flows"
  some ⟨namespaceName, name, flows⟩

end FlowRuntime
