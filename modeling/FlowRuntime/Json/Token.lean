import FlowRuntime.Json.Value
import FlowRuntime.Program.Identity

/-!
The words of JSON text, found by a machine that looks at one character at a time.
A number ends at the first character that cannot belong to it, so that one step
may give a number and the token after it.
-/
namespace FlowRuntime.Json

inductive Token where
  | openArray
  | closeArray
  | openObject
  | closeObject
  | colon
  | comma
  | null
  | bool (b : Bool)
  | number (n : Option Int)
  | text (s : Option String)
  deriving DecidableEq

/-- How far the machine is within a number; of a whole number, what it is so far. -/
inductive NumberPart where
  | sign
  | zero
  | whole (magnitude : Nat)
  | point
  | fraction
  | exponent
  | exponentSign
  | exponentDigits
  deriving DecidableEq

/-- A string literal so far: its characters backwards, whether all of them are characters, and the
first half of a surrogate pair if it ends with one. -/
structure Literal where
  reversed : List Char
  sound : Bool
  half : Option Nat
  deriving DecidableEq

namespace Literal

def start : Literal := ⟨[], true, none⟩

def push (l : Literal) (c : Char) : Literal := ⟨c :: l.reversed, l.sound && l.half.isNone, none⟩

def spoil (l : Literal) : Literal := { l with sound := false, half := none }

def pushUnit (l : Literal) (u : Nat) : Literal :=
  if 0xD800 ≤ u ∧ u < 0xDC00 then
    match l.half with
    | none => { l with half := some u }
    | some _ => l.spoil
  else if 0xDC00 ≤ u ∧ u < 0xE000 then
    match l.half with
    | none => l.spoil
    | some h =>
      ⟨Char.ofNat (0x10000 + (h - 0xD800) * 0x400 + (u - 0xDC00)) :: l.reversed, l.sound, none⟩
  else l.push (Char.ofNat u)

def finish (l : Literal) : Option String :=
  if l.sound && l.half.isNone then some (String.ofList l.reversed.reverse) else none

end Literal

inductive Mode where
  | between
  | word (next : Char) (rest : List Char) (token : Token)
  | number (negative : Bool) (part : NumberPart)
  | text (literal : Literal)
  | escape (literal : Literal)
  | unit (literal : Literal) (missing : Nat) (value : Nat)

def isBlank (c : Char) : Bool := c = ' ' || c = '\n' || c = '\t' || c = '\r'

def digit? (c : Char) : Option Nat :=
  if 48 ≤ c.toNat ∧ c.toNat ≤ 57 then some (c.toNat - 48) else none

def NumberPart.finish (negative : Bool) : NumberPart → Option Token
  | .zero => some (.number (if negative then none else some 0))
  | .whole m => some (.number (some (if negative then -(m : Int) else m)))
  | .fraction | .exponentDigits => some (.number none)
  | .sign | .point | .exponent | .exponentSign => none

def NumberPart.next (c : Char) : NumberPart → Option NumberPart
  | .sign => (digit? c).map fun d => if d = 0 then .zero else .whole d
  | .zero => tail
  | .whole m =>
    match digit? c with
    | some d => some (.whole (10 * m + d))
    | none => tail
  | .point => (digit? c).map fun _ => .fraction
  | .fraction => if (digit? c).isSome then some .fraction else power
  | .exponent =>
    if c = '+' || c = '-' then some .exponentSign else (digit? c).map fun _ => .exponentDigits
  | .exponentSign | .exponentDigits => (digit? c).map fun _ => .exponentDigits
where
  power : Option NumberPart := if c = 'e' || c = 'E' then some .exponent else none
  tail : Option NumberPart := if c = '.' then some .point else power

def begin? (c : Char) : Option (List Token × Mode) :=
  if isBlank c then some ([], .between)
  else match c with
  | '[' => some ([.openArray], .between)
  | ']' => some ([.closeArray], .between)
  | '{' => some ([.openObject], .between)
  | '}' => some ([.closeObject], .between)
  | ':' => some ([.colon], .between)
  | ',' => some ([.comma], .between)
  | '"' => some ([], .text .start)
  | 'n' => some ([], .word 'u' ['l', 'l'] .null)
  | 't' => some ([], .word 'r' ['u', 'e'] (.bool true))
  | 'f' => some ([], .word 'a' ['l', 's', 'e'] (.bool false))
  | '-' => some ([], .number true .sign)
  | c => (NumberPart.next c .sign).map fun part => ([], .number false part)

def escaped? : Char → Option Char
  | '"' => some '"'
  | '\\' => some '\\'
  | '/' => some '/'
  | 'b' => some '\x08'
  | 'f' => some '\x0c'
  | 'n' => some '\n'
  | 'r' => some '\r'
  | 't' => some '\t'
  | _ => none

def Mode.step (c : Char) : Mode → Option (List Token × Mode)
  | .between => begin? c
  | .word last [] token => if c = last then some ([token], .between) else none
  | .word next (after :: rest) token => if c = next then some ([], .word after rest token) else none
  | .number negative part =>
    match part.next c with
    | some part => some ([], .number negative part)
    | none =>
      match part.finish negative, begin? c with
      | some token, some (tokens, mode) => some (token :: tokens, mode)
      | _, _ => none
  | .text literal =>
    if c = '"' then some ([.text literal.finish], .between)
    else if c = '\\' then some ([], .escape literal)
    else if c.toNat < 0x20 then none
    else some ([], .text (literal.push c))
  | .escape literal =>
    if c = 'u' then some ([], .unit literal 3 0)
    else (escaped? c).map fun c => ([], .text (literal.push c))
  | .unit literal missing value =>
    match hexDigit? c, missing with
    | none, _ => none
    | some d, 0 => some ([], .text (literal.pushUnit (16 * value + d.val)))
    | some d, missing + 1 => some ([], .unit literal missing (16 * value + d.val))

def Mode.finish : Mode → Option (List Token)
  | .between => some []
  | .number negative part => (part.finish negative).map ([·])
  | _ => none

def tokensFrom : Mode → List Char → Option (List Token)
  | mode, [] => mode.finish
  | mode, c :: rest =>
    match mode.step c with
    | none => none
    | some (tokens, mode) => (tokensFrom mode rest).map (tokens ++ ·)

def tokens (cs : List Char) : Option (List Token) := tokensFrom .between cs

end FlowRuntime.Json
