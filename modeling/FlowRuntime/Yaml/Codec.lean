import FlowRuntime.Document.Spec
import FlowRuntime.Yaml.Node

/-!
YAML as structured text. Any scalar is the text it is written as, whatever its style.
A whole number is a plain scalar without a tag that is written as one, or a scalar of
any style with the tag `!!int`. Without the tag, a number may have a base of 16, 8 or
2, and digits that start with a needless zero are none; with it, all digits are
decimal. An alternative that holds something is a scalar tagged with its name, or a
mapping of one member. An alias is read as the node of its anchor, one step at a time,
so a node may be read as part of itself.
-/
namespace FlowRuntime.Yaml

def decimal? (text : List Char) : Option Nat :=
  if text.isEmpty || !text.all Char.isDigit then none
  else some (text.foldl (fun n c => n * 10 + (c.toNat - 48)) 0)

def withSign? (read : List Char → Option Nat) : List Char → Option Int
  | '-' :: rest => (read rest).map fun n => -(n : Int)
  | '+' :: rest => (read rest).map fun n => (n : Int)
  | text => (read text).map fun n => (n : Int)

def digitsOf? (base : Nat) (text : List Char) : Option Nat :=
  if text.isEmpty then none
  else text.foldlM (fun n c => (hexDigit? c).bind fun d =>
    if d.val < base then some (n * base + d.val) else none) 0

/-- The digits behind the sign of a base, before which there may be a further plus sign, unless the
number is negative. -/
def based? (base : Nat) (sign : Char) (text : List Char) : Option Int :=
  match text with
  | '-' :: '0' :: s :: rest =>
    if s = sign then (digitsOf? base rest).map fun n => -(n : Int) else none
  | '0' :: s :: '+' :: rest | '+' :: '0' :: s :: '+' :: rest
  | '+' :: '0' :: s :: rest | '0' :: s :: rest =>
    if s = sign then (digitsOf? base rest).map fun n => (n : Int) else none
  | _ => none

def isPadded (text : List Char) : Bool :=
  let digits := match text with
    | '-' :: rest | '+' :: rest => rest
    | text => text
  digits.length > 1 && digits.head? = some '0' && digits.all Char.isDigit

def plainNumber? (text : List Char) : Option Int :=
  based? 16 'x' text <|> based? 8 'o' text <|> based? 2 'b' text
    <|> if isPadded text then none else withSign? decimal? text

namespace Excerpt

def withNode (e : Excerpt) (n : Node) : Excerpt := { e with node := n }

/-- The node itself, or the one that it stands for. -/
def target? (e : Excerpt) : Option Node :=
  match e.node with
  | .alias anchor => e.anchored.lookup anchor
  | n => some n

def text? (e : Excerpt) : Option String :=
  match e.target? with
  | some (.scalar text _ _) => some text
  | _ => none

def integer? (e : Excerpt) : Option Int :=
  match e.target? with
  | some (.scalar text true none) => plainNumber? text.toList
  | some (.scalar text _ (some ("!!", "int"))) => withSign? decimal? text.toList
  | _ => none

def isNull (e : Excerpt) : Bool :=
  match e.target? with
  | some (.scalar text true none) => text = "~" || text = "null"
  | _ => false

def items? (e : Excerpt) : Option (List Excerpt) :=
  match e.target? with
  | some (.sequence items) => some (items.map e.withNode)
  | _ => none

def members? (e : Excerpt) : Option (List (Option String × Excerpt)) :=
  match e.target? with
  | some (.mapping members) =>
    some (members.map fun m => ((e.withNode m.1).text?, e.withNode m.2))
  | _ => none

def variant? (e : Excerpt) : Option (String × Excerpt) :=
  match e.target? with
  | some (.scalar text plain (some ("!", name))) =>
    some (name, e.withNode (.scalar text plain none))
  | some (.mapping [(.scalar name _ _, held)]) => some (name, e.withNode held)
  | _ => none

def unit? (e : Excerpt) : Option String := e.text?

instance : Document Excerpt where
  text? := text?
  integer? := integer?
  isNull := isNull
  items? := items?
  members? := members?
  variant? := variant?
  unit? := unit?

end Excerpt
end FlowRuntime.Yaml
