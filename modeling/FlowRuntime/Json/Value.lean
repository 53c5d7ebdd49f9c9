/-!
JSON values as far as they can be told apart by a reader of whole numbers and
texts. A number that is not written as a whole number is kept without its value.
A string literal whose escapes name half of a surrogate pair stands for no text,
but is well formed and may be passed over. Objects keep their members in order,
repeated ones included.
-/
namespace FlowRuntime

inductive Json where
  | null
  | bool (b : Bool)
  | number (n : Option Int)
  | text (s : Option String)
  | array (items : List Json)
  | object (members : List (Option String × Json))
  deriving Inhabited

namespace Json

def ofText (s : String) : Json := .text (some s)

def ofInt (n : Int) : Json := .number (some n)

def ofNat (n : Nat) : Json := ofInt n

def record (members : List (String × Json)) : Json :=
  .object (members.map fun m => (some m.1, m.2))

end Json
end FlowRuntime
