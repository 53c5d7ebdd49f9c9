import FlowRuntime.Program.Identity
import FlowRuntime.Yaml.Cursor

/-!
Scalars in YAML text. Plain and quoted ones may go over several lines: the blanks
around a line break are dropped, a single break becomes a space, and of several
breaks the first is dropped. Block scalars keep the breaks of a literal, and fold
those of other text unless a line is indented further.

Every loop takes at least one character in each round, so the length of the text
bounds its rounds.
-/
namespace FlowRuntime.Yaml

/-- What is between two pieces of a scalar: the blanks before the first break, and the breaks. -/
structure Gap where
  blanks : List Char
  breaks : Nat

namespace Gap

def lines (n : Nat) : List Char := List.replicate n '\n'

/-- After an escaped break all breaks count; otherwise the first is folded. -/
def text (g : Gap) (escaped : Bool) : List Char :=
  if escaped then lines g.breaks
  else match g.breaks with
    | 0 => g.blanks
    | 1 => [' ']
    | n + 2 => lines (n + 1)

/-- Takes blanks and breaks. A tab on a later line may be out of place, depending on its column. -/
def take? (misplaced : Nat → Bool) : Nat → Gap → Cursor → Option (Gap × Cursor)
  | 0, g, c => some (g, c)
  | fuel + 1, g, c =>
    match c.head? with
    | none => some (g, c)
    | some ch =>
      if isBlank ch then
        if g.breaks = 0 then take? misplaced fuel ⟨g.blanks ++ [ch], 0⟩ c.skip
        else if ch = '\t' && misplaced c.column then none
        else take? misplaced fuel g c.skip
      else if isBreak ch then take? misplaced fuel ⟨[], g.breaks + 1⟩ c.skipBreak
      else some (g, c)

end Gap

namespace Scalar

/-- The characters of a plain scalar up to a blank or to what ends it. -/
def plainPiece (inFlow : Bool) : List Char → List Char
  | [] => []
  | ch :: rest =>
    if isSpace ch then []
    else if ch = ':' && (endsWord rest.head? || (inFlow && rest.head?.any isFlowMark)) then []
    else if inFlow && isFlowMark ch then []
    else ch :: plainPiece inFlow rest

/-- Goes on with a plain scalar of so much text, after a gap. The last answer says whether it was
ended by a line break. -/
def plainFrom (inFlow : Bool) (indent : Int) :
    Nat → List Char → Gap → Cursor → Option (List Char × Bool × Cursor)
  | 0, text, gap, c => some (text, gap.breaks ≠ 0, c)
  | fuel + 1, text, gap, c =>
    if c.isAtAnyMark || c.isAt (· = '#') then some (text, gap.breaks ≠ 0, c)
    else
      let piece := plainPiece inFlow c.rest
      let ended := piece.isEmpty && gap.breaks ≠ 0
      let text := if piece.isEmpty then text else text ++ gap.text false ++ piece
      let c := c.skipMany piece.length
      if !c.isAt isSpace then some (text, ended, c)
      else do
        let misplaced (column : Nat) : Bool := (column : Int) < indent
        let (gap, c) ← Gap.take? misplaced c.rest.length ⟨[], 0⟩ c
        if !inFlow && decide ((c.column : Int) < indent) then some (text, gap.breaks ≠ 0, c)
        else plainFrom inFlow indent fuel text gap c

def plain? (inFlow : Bool) (indent : Int) (c : Cursor) : Option (List Char × Bool × Cursor) :=
  plainFrom inFlow indent (c.rest.length + 1) [] ⟨[], 0⟩ c

def hexNumber? (digits : Nat) (text : List Char) : Option Nat :=
  if text.length < digits then none
  else (text.take digits).foldlM (fun n ch => (hexDigit? ch).map fun d => n * 16 + d.val) 0

def charOfNumber? (n : Nat) : Option Char :=
  if h : n.isValidChar then some (Char.ofNatAux n h) else none

/-- What an escape stands for, given what is behind its backslash, and its length without it. -/
def escape? : List Char → Option (Char × Nat)
  | [] => none
  | ch :: rest =>
    let number (digits : Nat) : Option (Char × Nat) :=
      ((hexNumber? digits rest).bind charOfNumber?).map (·, digits + 1)
    match ch with
    | '0' => some ('\x00', 1)
    | 'a' => some ('\x07', 1)
    | 'b' => some ('\x08', 1)
    | 't' | '\t' => some ('\t', 1)
    | 'n' => some ('\n', 1)
    | 'v' => some ('\x0b', 1)
    | 'f' => some ('\x0c', 1)
    | 'r' => some ('\r', 1)
    | 'e' => some ('\x1b', 1)
    | ' ' => some (' ', 1)
    | '"' => some ('"', 1)
    | '\'' => some ('\'', 1)
    | '\\' => some ('\\', 1)
    | 'N' => some ('\u0085', 1)
    | '_' => some ('\u00a0', 1)
    | 'L' => some ('\u2028', 1)
    | 'P' => some ('\u2029', 1)
    | 'x' => number 2
    | 'u' => number 4
    | 'U' => number 8
    | _ => none

/-- The characters of a quoted scalar up to a blank, a quote or an escaped break; whether it was
that. Between single quotes, only a single quote is escaped, by another. -/
def quotedPiece? (single : Bool) : Nat → List Char → Cursor → Option (List Char × Bool × Cursor)
  | 0, text, c => some (text, false, c)
  | fuel + 1, text, c =>
    match c.rest with
    | [] => some (text, false, c)
    | '\'' :: rest =>
      if !single then quotedPiece? single fuel (text ++ ['\'']) c.skip
      else if rest.head? = some '\'' then quotedPiece? single fuel (text ++ ['\'']) (c.skipMany 2)
      else some (text, false, c)
    | '"' :: _ =>
      if single then quotedPiece? single fuel (text ++ ['"']) c.skip else some (text, false, c)
    | '\\' :: rest =>
      if single then quotedPiece? single fuel (text ++ ['\\']) c.skip
      else if rest.head?.any isBreak then some (text, true, c.skip.skipBreak)
      else do
        let (ch, length) ← escape? rest
        quotedPiece? single fuel (text ++ [ch]) (c.skipMany (length + 1))
    | ch :: _ =>
      if isSpace ch then some (text, false, c)
      else quotedPiece? single fuel (text ++ [ch]) c.skip

/-- Goes on with a quoted scalar of so much text, up to its closing quote. -/
def quotedFrom (single : Bool) : Nat → List Char → Cursor → Option (List Char × Cursor)
  | 0, _, _ => none
  | fuel + 1, text, c =>
    if c.isAtAnyMark || c.rest.isEmpty then none
    else do
      let (text, escaped, c) ← quotedPiece? single (c.rest.length + 1) text c
      if c.isAt (· = if single then '\'' else '"') then some (text, c.skip)
      else
        let (gap, c) ← Gap.take? (fun _ => false) c.rest.length ⟨[], 0⟩ c
        quotedFrom single fuel (text ++ gap.text escaped) c

def quoted? (single : Bool) (c : Cursor) : Option (List Char × Cursor) :=
  quotedFrom single (c.rest.length + 1) [] c.skip

inductive Chomping where
  | strip
  | clip
  | keep
  deriving DecidableEq

def chomping? (c : Cursor) : Option Chomping :=
  match c.head? with
  | some '+' => some .keep
  | some '-' => some .strip
  | _ => none

/-- The further indentation given for a block scalar, which may not be none. -/
def increment? (c : Cursor) : Option (Nat × Cursor) :=
  match c.head? with
  | some ch =>
    if !ch.isDigit then some (0, c) else if ch = '0' then none else some (ch.toNat - 48, c.skip)
  | none => some (0, c)

def indicators? (c : Cursor) : Option (Chomping × Nat × Cursor) :=
  match chomping? c with
  | some chomping => (increment? c.skip).map (chomping, ·)
  | none => do
    let (increment, c) ← increment? c
    match if increment = 0 then none else chomping? c with
    | some chomping => some (chomping, increment, c.skip)
    | none => some (.clip, increment, c)

/-- Takes indentation and empty lines. As long as the indentation is not known, it is zero. -/
def emptyLines? (indent : Nat) : Nat → (breaks deepest : Nat) → Cursor → Option (Nat × Nat × Cursor)
  | 0, breaks, deepest, c => some (breaks, deepest, c)
  | fuel + 1, breaks, deepest, c =>
    let blanks := (c.rest.takeWhile (· = ' ')).length
    let c := c.skipMany (if indent = 0 then blanks else min blanks (indent - c.column))
    let deepest := max deepest c.column
    if (indent = 0 || c.column < indent) && c.isAt (· = '\t') then none
    else if c.isAt isBreak then emptyLines? indent fuel (breaks + 1) deepest c.skipBreak
    else some (breaks, deepest, c)

/-- Takes the lines of a block scalar. `leading` says whether a break is still to be written, and
`indented` whether the line before it was indented further. -/
def blockLines? (folded : Bool) (indent : Nat) :
    Nat → List Char → (leading : Bool) → (breaks : Nat) → (indented : Bool) → Cursor →
    Option (List Char × Bool × Nat × Cursor)
  | 0, text, leading, breaks, _, c => some (text, leading, breaks, c)
  | fuel + 1, text, leading, breaks, indented, c =>
    if c.column ≠ indent || c.rest.isEmpty then some (text, leading, breaks, c)
    else
      let deeper := c.isAt isBlank
      let joint := if folded && leading && !indented && !deeper then
        (if breaks = 0 then [' '] else []) else if leading then ['\n'] else []
      let (line, c) := c.takeWhile fun ch => !isBreak ch
      let text := text ++ joint ++ Gap.lines breaks ++ line
      if c.rest.isEmpty then some (text, false, 0, c)
      else do
        let c := c.skipBreak
        let (breaks, _, c) ← emptyLines? indent (c.rest.length + 1) 0 0 c
        blockLines? folded indent fuel text true breaks deeper c

def block? (folded : Bool) (outer : Int) (c : Cursor) : Option (List Char × Cursor) := do
  let (chomping, increment, c) ← indicators? c.skip
  let c ← c.endLine?
  let given := if increment = 0 then 0
    else if outer ≥ 0 then outer.toNat + increment else increment
  let (breaks, deepest, c) ← emptyLines? given (c.rest.length + 1) 0 0 c
  let indent := if given = 0 then max deepest (max (outer + 1).toNat 1) else given
  let (text, leading, breaks, c) ←
    blockLines? folded indent (c.rest.length + 1) [] false breaks false c
  let last := if leading && chomping ≠ .strip then ['\n'] else []
  let more := if chomping = .keep then Gap.lines breaks else []
  some (text ++ last ++ more, c)

end Scalar
end FlowRuntime.Yaml
