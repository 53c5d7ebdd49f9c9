import FlowRuntime.Yaml.Codec

/-!
How often aliases are followed when a node is read. Reading gives up when that is more
than a hundred times the length of the document; so the size of what is read stays in
proportion to the text.
-/
namespace FlowRuntime.Yaml

/-- What a node is read as. Of a record, only the known fields are read. -/
inductive Shape where
  | scalar
  | scalars
  | list (item : Shape)
  | record (fields : List (String × Shape))

namespace Node

mutual

/-- The length of a node: one for each scalar and alias, and one for each end of a collection. -/
def length : Node → Nat
  | .scalar _ _ _ | .alias _ => 1
  | .sequence items => lengthOfItems items + 2
  | .mapping members => lengthOfMembers members + 2

def lengthOfItems : List Node → Nat
  | [] => 0
  | n :: rest => n.length + lengthOfItems rest

def lengthOfMembers : List (Node × Node) → Nat
  | [] => 0
  | (k, v) :: rest => k.length + v.length + lengthOfMembers rest

end

end Node

namespace Excerpt

/-- Follows an alias, if it is one and there are any steps left. -/
def follow? (e : Excerpt) (left : Nat) : Option Nat :=
  match e.node, left with
  | .alias _, 0 => none
  | .alias _, left + 1 => some left
  | _, left => some left

def followEach? (nodes : List Excerpt) (left : Nat) : Option Nat :=
  nodes.foldlM (fun left e => e.follow? left) left

def pairs (e : Excerpt) : List (Excerpt × Excerpt) :=
  match e.target? with
  | some (.mapping members) => members.map fun m => (e.withNode m.1, e.withNode m.2)
  | _ => []

def keys (e : Excerpt) : List Excerpt := e.pairs.map (·.1)

mutual

/-- Follows the aliases that reading follows, and gives the steps that are left. -/
def followAll? : Shape → Excerpt → Nat → Option Nat
  | .scalar, e, left => e.follow? left
  | .scalars, e, left =>
    (e.follow? left).bind (followEach? (e.pairs.flatMap fun m => [m.1, m.2]))
  | .list item, e, left =>
    (e.follow? left).bind fun left =>
      (e.items?.getD []).foldlM (fun left e => followAll? item e left) left
  | .record fields, e, left =>
    ((e.follow? left).bind (followEach? e.keys)).bind fun left =>
      match Document.fields? (fields.map (·.1)) e with
      | none => some left
      | some picked => followFields? fields picked left

def followFields? : List (String × Shape) → SortedMap String Excerpt → Nat → Option Nat
  | [], _, left => some left
  | (name, shape) :: rest, picked, left =>
    match picked.get? name with
    | none => followFields? rest picked left
    | some e => (followAll? shape e left).bind (followFields? rest picked)

end

end Excerpt
end FlowRuntime.Yaml
