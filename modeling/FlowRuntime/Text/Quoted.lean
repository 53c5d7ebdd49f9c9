import FlowRuntime.Text.Hidden

/-!
Text between double quotes, for display. Quotes, backslashes, tabs and line ends
are escaped by a letter, NUL by a zero, and other characters that do not show by
their number in hexadecimal.
-/
namespace FlowRuntime.Text

def hexText (n : Nat) : List Char := Nat.toDigits 16 n

def quoteChar (c : Char) : List Char :=
  match c with
  | '"' => ['\\', '"']
  | '\\' => ['\\', '\\']
  | '\t' => ['\\', 't']
  | '\r' => ['\\', 'r']
  | '\n' => ['\\', 'n']
  | '\x00' => ['\\', '0']
  | c => if isHidden c then ['\\', 'u', '\x7b'] ++ hexText c.toNat ++ ['\x7d'] else [c]

def quote (s : String) : String :=
  String.ofList ('"' :: (s.toList.flatMap quoteChar ++ ['"']))

end FlowRuntime.Text
