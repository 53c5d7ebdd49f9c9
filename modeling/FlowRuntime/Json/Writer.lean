import FlowRuntime.Json.Value
import FlowRuntime.Program.Identity

/-!
JSON text of a value, without blanks. Quotation marks, reverse solidi and control
characters are escaped, the usual ones by a letter, and all else is written as it
is. What has no value is written as some literal that has none.
-/
namespace FlowRuntime.Json

def hexDigitOf (n : Nat) : Char := hexDigit ⟨n % 16, Nat.mod_lt n (by decide)⟩

def escapeChar (c : Char) : List Char :=
  match c with
  | '"' => ['\\', '"']
  | '\\' => ['\\', '\\']
  | '\x08' => ['\\', 'b']
  | '\x0c' => ['\\', 'f']
  | '\n' => ['\\', 'n']
  | '\r' => ['\\', 'r']
  | '\t' => ['\\', 't']
  | c =>
    if c.toNat < 0x20 then
      ['\\', 'u', '0', '0', hexDigitOf (c.toNat / 16), hexDigitOf c.toNat]
    else [c]

def writeText : Option String → List Char
  | some s => '"' :: s.toList.flatMap escapeChar ++ ['"']
  | none => "\"\\ud800\"".toList

def writeNumber : Option Int → List Char
  | some n => (toString n).toList
  | none => "0.5".toList

mutual

def write : Json → List Char
  | .null => "null".toList
  | .bool true => "true".toList
  | .bool false => "false".toList
  | .number n => writeNumber n
  | .text s => writeText s
  | .array [] => "[]".toList
  | .array (v :: rest) => '[' :: write v ++ writeItems rest
  | .object [] => ['{', '}']
  | .object ((k, v) :: rest) => '{' :: writeText k ++ ':' :: write v ++ writeMembers rest

def writeItems : List Json → List Char
  | [] => [']']
  | v :: rest => ',' :: write v ++ writeItems rest

def writeMembers : List (Option String × Json) → List Char
  | [] => ['}']
  | (k, v) :: rest => ',' :: writeText k ++ ':' :: write v ++ writeMembers rest

end

def render (v : Json) : String := String.ofList (write v)

end FlowRuntime.Json
