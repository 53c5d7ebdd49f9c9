import FlowRuntime.Program.Spec

/-!
Reading records out of structured text. What JSON and YAML have in common is that
a piece of text can be asked to be a text, a whole number, a list or a set of
members; everything that is read here is read from those questions alone. A
record may be given by its members, of which unknown ones are passed over and
known ones must not repeat, or as a list of its fields in their order, of which
the last may be left out. A field with a default may be missing, but if it is
there it must be well formed.
-/
namespace FlowRuntime

class Document (δ : Type) where
  text? : δ → Option String
  integer? : δ → Option Int
  isNull : δ → Bool
  items? : δ → Option (List δ)
  /-- The key of a member is nothing where it is no text. -/
  members? : δ → Option (List (Option String × δ))
  /-- One of several alternatives, by name, with what it holds. -/
  variant? : δ → Option (String × δ)
  /-- One of several alternatives that hold nothing. -/
  unit? : δ → Option String

namespace Document
variable {δ : Type} [Document δ] {α : Type}

/-- The members of the given names, if no key is ill formed and no name is given twice. -/
def pick (names : List String) : List (Option String × δ) → Option (SortedMap String δ)
  | [] => some .empty
  | (none, _) :: _ => none
  | (some key, v) :: rest =>
    match pick names rest with
    | none => none
    | some picked =>
      if key ∉ names then some picked
      else if picked.contains key then none
      else some (picked.insert key v)

def fields? (names : List String) (d : δ) : Option (SortedMap String δ) :=
  match members? d with
  | some members => pick names members
  | none =>
    match items? d with
    | some items => if items.length ≤ names.length then some (.ofList (names.zip items)) else none
    | none => none

def required (read : δ → Option α) (fields : SortedMap String δ) (name : String) : Option α :=
  (fields.get? name).bind read

def defaulted (read : δ → Option α) (default : α) (fields : SortedMap String δ) (name : String) :
    Option α :=
  match fields.get? name with
  | none => some default
  | some d => read d

def nullable (read : δ → Option α) (d : δ) : Option (Option α) :=
  if isNull d then some none else (read d).map some

def list? (read : δ → Option α) (d : δ) : Option (List α) := (items? d).bind (·.mapM read)

def argument? (member : Option String × δ) : Option (String × String) :=
  match member.1, text? member.2 with
  | some key, some v => some (key, v)
  | _, _ => none

/-- Of a key given twice the last value counts. -/
def args? (d : δ) : Option Args :=
  match members? d with
  | none => none
  | some members => (members.mapM argument?).map .ofList

def uint32? (d : δ) : Option UInt32 :=
  match integer? d with
  | some n => if 0 ≤ n ∧ n < 4294967296 then some (UInt32.ofNat n.toNat) else none
  | none => none

def int64? (d : δ) : Option Int64 :=
  match integer? d with
  | some n =>
    if -9223372036854775808 ≤ n ∧ n < 9223372036854775808 then some (Int64.ofInt n) else none
  | none => none

end Document
end FlowRuntime
