import FlowRuntime.Text.After

/-!
Who a run is: programs, run identifiers and stage instances, with the one text
each of them is displayed as. A run identifier is 32 hexadecimal digits; it is
written hyphenated and in lower case, and read in any case, with or without its
hyphens. The displayed text of a program joins free-form names by dots and so
does not determine them.
-/
namespace FlowRuntime

inductive ProgramType where
  | flow
  | worker
  | workflow
  | service
  deriving DecidableEq, Ord, Inhabited

namespace ProgramType

def all : List ProgramType := [.flow, .worker, .workflow, .service]

def text : ProgramType → String
  | .flow => "flow"
  | .worker => "worker"
  | .workflow => "workflow"
  | .service => "service"

end ProgramType

structure ProgramId where
  namespaceName : String
  application : String
  programType : ProgramType
  name : String
  deriving DecidableEq, Inhabited

namespace ProgramId

def flow (namespaceName application name : String) : ProgramId :=
  ⟨namespaceName, application, .flow, name⟩

def text (p : ProgramId) : String :=
  p.namespaceName ++ "." ++ p.application ++ "." ++ p.programType.text ++ "." ++ p.name

/-- Programs order by namespace, application, type and name, in this sequence. -/
instance : Ord ProgramId where
  compare a b :=
    (compare a.namespaceName b.namespaceName).then <|
      (compare a.application b.application).then <|
        (compare a.programType b.programType).then <| compare a.name b.name

end ProgramId

def hexDigit (d : Fin 16) : Char :=
  if d.val < 10 then Char.ofNat (48 + d.val) else Char.ofNat (87 + d.val)

def hexDigit? (c : Char) : Option (Fin 16) :=
  let n := c.toNat
  if 48 ≤ n ∧ n ≤ 57 then some (Fin.ofNat 16 (n - 48))
  else if 97 ≤ n ∧ n ≤ 102 then some (Fin.ofNat 16 (n - 87))
  else if 65 ≤ n ∧ n ≤ 70 then some (Fin.ofNat 16 (n - 55))
  else none

theorem hexDigit?_hexDigit : ∀ d : Fin 16, hexDigit? (hexDigit d) = some d := by decide

structure Uuid where
  digits : List (Fin 16)
  length_digits : digits.length = 32
  deriving DecidableEq

namespace Uuid

def zero : Uuid := ⟨List.replicate 32 0, rfl⟩

instance : Inhabited Uuid := ⟨zero⟩

/-- Groups of eight, four, four, four and twelve digits. -/
def text (u : Uuid) : String :=
  let c := u.digits.map hexDigit
  String.ofList (c.take 8 ++ '-' :: (c.drop 8).take 4 ++ '-' :: (c.drop 12).take 4
    ++ '-' :: (c.drop 16).take 4 ++ '-' :: c.drop 20)

def ofDigits? (cs : List Char) : Option Uuid :=
  match cs.mapM hexDigit? with
  | none => none
  | some ds => if h : ds.length = 32 then some ⟨ds, h⟩ else none

def ofHyphenated? (cs : List Char) : Option Uuid :=
  if cs.length = 36 ∧ cs[8]? = some '-' ∧ cs[13]? = some '-' ∧ cs[18]? = some '-'
      ∧ cs[23]? = some '-' then
    ofDigits? (cs.take 8 ++ (cs.drop 9).take 4 ++ (cs.drop 14).take 4 ++ (cs.drop 19).take 4
      ++ cs.drop 24)
  else none

/-- Accepts the hyphenated form, the bare digits, and the hyphenated form as a name `urn:uuid:`. -/
def parse? (s : String) : Option Uuid :=
  let cs := s.toList
  match Text.after? "urn:uuid:".toList cs with
  | some rest => ofHyphenated? rest
  | none => if cs.length = 32 then ofDigits? cs else ofHyphenated? cs

/-- A random identifier: the thirteenth digit says so, the seventeenth names the layout. -/
def ofRandom (random : Fin 32 → Fin 16) : Uuid where
  digits := (List.finRange 32).map fun i =>
    if i = 12 then 4 else if i = 16 then Fin.ofNat 16 (8 + (random i).val % 4) else random i
  length_digits := by simp

def version (u : Uuid) : Nat := ((u.digits[12]?).getD 0).val

end Uuid

/-- An identifier is never used for two runs; it carries the time it was made, in seconds. -/
structure RunId where
  id : Uuid
  createdSecs : Int64
  deriving DecidableEq, Inhabited

def RunId.text (r : RunId) : String := r.id.text

structure ProgramRunId where
  program : ProgramId
  run : RunId
  deriving DecidableEq, Inhabited

def ProgramRunId.text (r : ProgramRunId) : String := r.program.text ++ "/" ++ r.run.text

structure StageKey where
  stage : String
  instanceId : Nat
  deriving DecidableEq, Inhabited

namespace StageKey

def text (k : StageKey) : String := k.stage ++ "#" ++ toString k.instanceId

instance : Ord StageKey where
  compare := compareLex (compareOn stage) (compareOn instanceId)

instance : Std.TransOrd StageKey :=
  inferInstanceAs (Std.TransCmp (compareLex (compareOn stage) (compareOn instanceId)))

instance : Std.LawfulEqOrd StageKey where
  eq_of_compare {a b} h := by
    have h : compareLex (compareOn stage) (compareOn instanceId) a b = .eq := h
    rw [compareLex_eq_eq] at h
    obtain ⟨x, i⟩ := a
    obtain ⟨y, j⟩ := b
    have hs : x = y := Std.LawfulEqOrd.eq_of_compare h.1
    have hi : i = j := Std.LawfulEqOrd.eq_of_compare h.2
    rw [hs, hi]

end StageKey
end FlowRuntime
