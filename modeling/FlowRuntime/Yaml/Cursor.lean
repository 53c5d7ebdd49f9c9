/-!
A place in YAML text: what is left of the text, and the index, line and column of
its first character. A line ends at a line feed; a carriage return alone breaks
text into lines, but does not start a new line here.
-/
namespace FlowRuntime.Yaml

def isBreak (c : Char) : Bool := c = '\n' || c = '\r'

def isBlank (c : Char) : Bool := c = ' ' || c = '\t'

def isSpace (c : Char) : Bool := isBlank c || isBreak c

def isFlowMark (c : Char) : Bool := c = ',' || c = '[' || c = ']' || c = '{' || c = '}'

def isWord (c : Char) : Bool := c.isAlphanum || c = '_' || c = '-'

/-- Whether a word is over before this character, if there is one. -/
def endsWord (c : Option Char) : Bool := c.all isSpace

structure Cursor where
  rest : List Char
  index : Nat
  line : Nat
  column : Nat

namespace Cursor

def start (text : List Char) : Cursor := ⟨text, 0, 0, 0⟩

def head? (c : Cursor) : Option Char := c.rest.head?

def second? (c : Cursor) : Option Char := c.rest[1]?

def isAt (c : Cursor) (p : Char → Bool) : Bool := c.head?.any p

def skip (c : Cursor) : Cursor :=
  match c.rest with
  | [] => c
  | '\n' :: rest => ⟨rest, c.index + 1, c.line + 1, 0⟩
  | _ :: rest => ⟨rest, c.index + 1, c.line, c.column + 1⟩

def skipMany (c : Cursor) : Nat → Cursor
  | 0 => c
  | n + 1 => c.skip.skipMany n

def takeWhile (c : Cursor) (p : Char → Bool) : List Char × Cursor :=
  let taken := c.rest.takeWhile p
  (taken, c.skipMany taken.length)

def skipWhile (c : Cursor) (p : Char → Bool) : Cursor := (c.takeWhile p).2

/-- A carriage return and the line feed after it are one break. -/
def skipBreak (c : Cursor) : Cursor :=
  match c.rest with
  | '\r' :: '\n' :: _ => c.skipMany 2
  | '\r' :: _ | '\n' :: _ => c.skip
  | _ => c

def skipLine (c : Cursor) : Cursor := c.skipWhile fun ch => !isBreak ch

/-- The end of a line, with nothing before it but blanks and a comment. -/
def endLine? (c : Cursor) : Option Cursor :=
  let c := c.skipWhile isBlank
  let c := if c.isAt (· = '#') then c.skipLine else c
  if c.head?.all isBreak then some c.skipBreak else none

/-- Whether a document starts or ends here, which is marked by the given sign three times. -/
def isAtMark (c : Cursor) (sign : Char) : Bool :=
  c.column = 0 && c.rest.take 3 = [sign, sign, sign] && endsWord c.rest[3]?

def isAtAnyMark (c : Cursor) : Bool := c.isAtMark '-' || c.isAtMark '.'

end Cursor
end FlowRuntime.Yaml
