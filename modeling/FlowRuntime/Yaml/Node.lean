import FlowRuntime.Yaml.Token

/-!
The node that YAML text describes. An empty place in a collection stands for `~`. A
tag is kept only on scalars. Anchors are numbered, and an alias is the number of the
anchor of its name that came last before it; this may be the anchor of a node that
the alias is part of. Text describes a node if it holds exactly one document.
-/
namespace FlowRuntime.Yaml

inductive Node where
  | scalar (text : String) (plain : Bool) (tag : Option (String × String))
  | sequence (items : List Node)
  | mapping (members : List (Node × Node))
  | alias (anchor : Nat)
  deriving Inhabited

/-- A node of a document, with the nodes that the anchors of the document are on. -/
structure Excerpt where
  node : Node
  anchored : List (Nat × Node)

namespace Node

def missing : Node := .scalar "~" true none

/-- The anchors so far by name, newest first, and the nodes of those whose nodes are read. -/
structure Anchors where
  named : List (String × Nat)
  anchored : List (Nat × Node)
  count : Nat

namespace Anchors

def empty : Anchors := ⟨[], [], 0⟩

def declare (a : Anchors) (name : String) : Anchors × Nat :=
  ({ a with named := (name, a.count) :: a.named, count := a.count + 1 }, a.count)

def define (a : Anchors) (number : Option Nat) (n : Node) : Anchors :=
  match number with
  | none => a
  | some number => { a with anchored := (number, n) :: a.anchored }

def alias? (a : Anchors) (name : String) : Option Node := (a.named.lookup name).map .alias

end Anchors

abbrev Rest := Anchors × List Token

/-- Whether a node is left out before this token, in the place of a key or value of a block. -/
def leavesOut : List Token → Bool
  | .key :: _ | .value :: _ | .blockEnd :: _ => true
  | _ => false

def properties : Anchors → List Token → Rest × Option Nat × Option (String × String)
  | a, .anchor name :: .tag handle suffix :: rest | a, .tag handle suffix :: .anchor name :: rest =>
    let (a, number) := a.declare name
    ((a, rest), some number, some (handle, suffix))
  | a, .anchor name :: rest =>
    let (a, number) := a.declare name
    ((a, rest), some number, none)
  | a, .tag handle suffix :: rest => ((a, rest), none, some (handle, suffix))
  | a, rest => ((a, rest), none, none)

/-- A node that has properties may be empty otherwise. -/
def empty (number : Option Nat) (tag : Option (String × String)) (r : Rest) :
    Option (Node × Rest) :=
  if number.isNone && tag.isNone then none else some (.scalar "" true tag, r)

mutual

/-- Reads a node. In the place of a key or value of a block, a sequence needs no indentation. -/
def node? : (fuel : Nat) → (block unindented : Bool) → Rest → Option (Node × Rest)
  | 0, _, _, _ => none
  | fuel + 1, block, unindented, (a, tokens) =>
    match tokens with
    | .alias name :: rest => (a.alias? name).map (·, (a, rest))
    | _ =>
      let ((a, tokens), number, tag) := properties a tokens
      let content : Option (Node × Rest) := match tokens with
        | .scalar text plain :: rest => some (.scalar text plain tag, (a, rest))
        | .flowSequenceStart :: rest => flowItems? fuel true [] (a, rest)
        | .flowMappingStart :: rest => flowMembers? fuel true [] (a, rest)
        | .entry :: _ =>
          if unindented then unindentedItems? fuel [] (a, tokens) else empty number tag (a, tokens)
        | .sequenceStart :: rest =>
          if block then blockItems? fuel [] (a, rest) else empty number tag (a, tokens)
        | .mappingStart :: rest =>
          if block then blockMembers? fuel [] (a, rest) else empty number tag (a, tokens)
        | _ => empty number tag (a, tokens)
      content.map fun (n, (a, rest)) => (n, (a.define number n, rest))

def blockItems? : (fuel : Nat) → List Node → Rest → Option (Node × Rest)
  | 0, _, _ => none
  | fuel + 1, items, (a, tokens) =>
    match tokens with
    | .blockEnd :: rest => some (.sequence items.reverse, (a, rest))
    | .entry :: .entry :: rest => blockItems? fuel (missing :: items) (a, .entry :: rest)
    | .entry :: .blockEnd :: rest => blockItems? fuel (missing :: items) (a, .blockEnd :: rest)
    | .entry :: rest => do
      let (item, r) ← node? fuel true false (a, rest)
      blockItems? fuel (item :: items) r
    | _ => none

def unindentedItems? : (fuel : Nat) → List Node → Rest → Option (Node × Rest)
  | 0, _, _ => none
  | fuel + 1, items, (a, tokens) =>
    match tokens with
    | .entry :: .entry :: rest => unindentedItems? fuel (missing :: items) (a, .entry :: rest)
    | .entry :: rest =>
      if leavesOut rest then unindentedItems? fuel (missing :: items) (a, rest)
      else do
        let (item, r) ← node? fuel true false (a, rest)
        unindentedItems? fuel (item :: items) r
    | _ => some (.sequence items.reverse, (a, tokens))

def blockMembers? : (fuel : Nat) → List (Node × Node) → Rest → Option (Node × Rest)
  | 0, _, _ => none
  | fuel + 1, members, (a, tokens) =>
    let withValue (key : Node) (r : Rest) : Option (Node × Rest) := do
      let (value, r) ← blockValue? fuel r
      blockMembers? fuel ((key, value) :: members) r
    match tokens with
    | .blockEnd :: rest => some (.mapping members.reverse, (a, rest))
    | .key :: rest =>
      if leavesOut rest then withValue missing (a, rest)
      else do
        let (key, r) ← node? fuel true true (a, rest)
        withValue key r
    | .value :: _ => withValue missing (a, tokens)
    | _ => none

def blockValue? : (fuel : Nat) → Rest → Option (Node × Rest)
  | 0, _ => none
  | fuel + 1, (a, tokens) =>
    match tokens with
    | .value :: rest =>
      if leavesOut rest then some (missing, (a, rest)) else node? fuel true true (a, rest)
    | _ => some (missing, (a, tokens))

def flowItems? : (fuel : Nat) → (first : Bool) → List Node → Rest → Option (Node × Rest)
  | 0, _, _, _ => none
  | fuel + 1, first, items, (a, tokens) =>
    let item (tokens : List Token) : Option (Node × Rest) := match tokens with
      | .flowSequenceEnd :: rest => some (.sequence items.reverse, (a, rest))
      | .key :: rest => do
        let (pair, r) ← flowPair? fuel (a, rest)
        flowItems? fuel false (pair :: items) r
      | _ => do
        let (item, r) ← node? fuel false false (a, tokens)
        flowItems? fuel false (item :: items) r
    match tokens with
    | .flowSequenceEnd :: rest => some (.sequence items.reverse, (a, rest))
    | .flowEntry :: rest => if first then none else item rest
    | _ => if first then item tokens else none

/-- A mapping of one member, as an item of a flow sequence. An empty key takes its colon with it. -/
def flowPair? : (fuel : Nat) → Rest → Option (Node × Rest)
  | 0, _ => none
  | fuel + 1, (a, tokens) => do
    let (key, (a, tokens)) ← match tokens with
      | .value :: rest | .flowEntry :: rest | .flowSequenceEnd :: rest => some (missing, (a, rest))
      | _ => node? fuel false false (a, tokens)
    let (value, r) ← match tokens with
      | .value :: .flowEntry :: rest => some (missing, (a, .flowEntry :: rest))
      | .value :: .flowSequenceEnd :: rest => some (missing, (a, .flowSequenceEnd :: rest))
      | .value :: rest => node? fuel false false (a, rest)
      | _ => some (missing, (a, tokens))
    some (.mapping [(key, value)], r)

def flowMembers? : (fuel : Nat) → (first : Bool) → List (Node × Node) → Rest →
    Option (Node × Rest)
  | 0, _, _, _ => none
  | fuel + 1, first, members, (a, tokens) =>
    let withValue (key : Node) (r : Rest) : Option (Node × Rest) := do
      let (value, r) ← flowValue? fuel r
      flowMembers? fuel false ((key, value) :: members) r
    let member (tokens : List Token) : Option (Node × Rest) := match tokens with
      | .flowMappingEnd :: rest => some (.mapping members.reverse, (a, rest))
      | .key :: .value :: rest => withValue missing (a, .value :: rest)
      | .key :: .flowEntry :: rest => withValue missing (a, .flowEntry :: rest)
      | .key :: .flowMappingEnd :: rest => withValue missing (a, .flowMappingEnd :: rest)
      | .key :: rest => do
        let (key, r) ← node? fuel false false (a, rest)
        withValue key r
      | .value :: _ => withValue missing (a, tokens)
      | _ => do
        let (key, r) ← node? fuel false false (a, tokens)
        flowMembers? fuel false ((key, missing) :: members) r
    match tokens with
    | .flowMappingEnd :: rest => some (.mapping members.reverse, (a, rest))
    | .flowEntry :: rest => if first then none else member rest
    | _ => if first then member tokens else none

def flowValue? : (fuel : Nat) → Rest → Option (Node × Rest)
  | 0, _ => none
  | fuel + 1, (a, tokens) =>
    match tokens with
    | .value :: .flowEntry :: rest => some (missing, (a, .flowEntry :: rest))
    | .value :: .flowMappingEnd :: rest => some (missing, (a, .flowMappingEnd :: rest))
    | .value :: rest => node? fuel false false (a, rest)
    | _ => some (missing, (a, tokens))

end

/-- Reading goes no deeper than this, as every token is passed by few calls within each other. -/
def fuel (tokens : List Token) : Nat := 4 * tokens.length + 4

def first? (tokens : List Token) : Option (Excerpt × List Token) :=
  (node? (fuel tokens) true false (.empty, tokens)).map fun (n, a, rest) => (⟨n, a.anchored⟩, rest)

/-- After an explicit start, a document may be empty. -/
def content? (tokens : List Token) : Option (Excerpt × List Token) :=
  match tokens with
  | [] | .directive :: _ | .documentStart :: _ | .documentEnd :: _ => some (⟨missing, []⟩, tokens)
  | _ => first? tokens

def isDirective (t : Token) : Bool := t = .directive

def document? (tokens : List Token) : Option (Excerpt × List Token) :=
  match tokens with
  | [] => none
  | .directive :: _ | .documentStart :: _ =>
    match tokens.dropWhile isDirective with
    | .documentStart :: rest => content? rest
    | _ => none
  | _ => first? tokens

end Node

namespace Excerpt

def ofTokens? (tokens : List Token) : Option Excerpt :=
  match Node.document? tokens with
  | some (e, rest) => if rest.all (· = .documentEnd) then some e else none
  | none => none

def ofText? (text : String) : Option Excerpt := (Token.ofText? text).bind ofTokens?

end Excerpt
end FlowRuntime.Yaml
