import FlowRuntime.Yaml.Scalar

/-!
The tokens of YAML text. In block style the columns at which collections start
make up their layout: a token further to the right opens a collection, one further
to the left closes those that it is outside of. Whether something is a key shows
only at the colon behind it, so its place is kept as long as it may be one: within
a line, and for no more than 1024 characters.

A NUL ends the text.
-/
namespace FlowRuntime.Yaml

inductive Token where
  | directive
  | documentStart
  | documentEnd
  | sequenceStart
  | mappingStart
  | blockEnd
  | entry
  | key
  | value
  | flowSequenceStart
  | flowSequenceEnd
  | flowMappingStart
  | flowMappingEnd
  | flowEntry
  | anchor (name : String)
  | alias (name : String)
  | tag (handle suffix : String)
  | scalar (text : String) (plain : Bool)
  deriving DecidableEq, Inhabited

/-- What may turn out to be a key: where it is, and the number of its first token. One that is
`required` has to. -/
structure Candidate where
  cursor : Cursor
  token : Nat
  required : Bool

/-- The place in the text, the tokens so far, and how they are laid out. There is a candidate, or
none, for the text outside of flow collections and for each flow collection around this place. -/
structure Layout where
  cursor : Cursor
  tokens : Array Token
  keyAllowed : Bool
  candidates : List (Option Candidate)
  indent : Int
  outer : List Int
  adjacent : Option Nat

namespace Layout

def start (text : List Char) : Layout :=
  ⟨.start (text.takeWhile (· ≠ '\x00')), #[], true, [none], -1, [], none⟩

def flowLevel (l : Layout) : Nat := l.candidates.length - 1

def inFlow (l : Layout) : Bool := l.flowLevel ≠ 0

def emit (l : Layout) (t : Token) : Layout := { l with tokens := l.tokens.push t }

def skip (l : Layout) (n : Nat) : Layout := { l with cursor := l.cursor.skipMany n }

def allowKey (l : Layout) (allowed : Bool) : Layout := { l with keyAllowed := allowed }

/-- Closes the collections that start to the right of a column. -/
def unindent (l : Layout) (column : Int) : Layout :=
  if l.inFlow then l else go l.outer l
where
  go : List Int → Layout → Layout
    | [], l => l
    | outer :: rest, l =>
      if column < l.indent then
        go rest { l.emit .blockEnd with indent := outer, outer := rest }
      else l

/-- Opens a collection at a column, before the token of some number, unless one starts there. -/
def indentTo (l : Layout) (column : Nat) (place : Nat) (opening : Token) : Layout :=
  if l.inFlow || decide ((column : Int) ≤ l.indent) then l
  else
    { l with
      tokens := l.tokens.insertIdxIfInBounds place opening
      outer := l.indent :: l.outer
      indent := column }

def dropCandidate? (l : Layout) : Option Layout :=
  match l.candidates with
  | some c :: rest => if c.required then none else some { l with candidates := none :: rest }
  | _ => some l

def addCandidate? (l : Layout) : Option Layout :=
  if !l.keyAllowed then some l
  else do
    let required := l.inFlow && decide (l.indent = l.cursor.column)
    let l ← l.dropCandidate?
    some { l with
      candidates := some ⟨l.cursor, l.tokens.size, required⟩ :: l.candidates.drop 1 }

def isStale (now : Cursor) (c : Candidate) : Bool :=
  c.cursor.line < now.line || c.cursor.index + 1024 < now.index

def dropStale? (l : Layout) : Option Layout := do
  let candidates ← l.candidates.mapM fun
    | none => some none
    | some c =>
      if !isStale l.cursor c then some (some c) else if c.required then none else some none
  some { l with candidates := candidates }

/-- Takes blanks, comments and line breaks. Where a key may start, a tab is not taken. -/
def skipSpace : Nat → Layout → Layout
  | 0, l => l
  | fuel + 1, l =>
    match l.cursor.head? with
    | some ' ' => skipSpace fuel (l.skip 1)
    | some '\t' => if l.inFlow || !l.keyAllowed then skipSpace fuel (l.skip 1) else l
    | some '#' => skipSpace fuel { l with cursor := l.cursor.skipLine }
    | some ch =>
      if isBreak ch then
        skipSpace fuel
          { l with cursor := l.cursor.skipBreak, keyAllowed := l.keyAllowed || !l.inFlow }
      else l
    | none => l

def outermost? (l : Layout) : Option Layout := (l.unindent (-1)).dropCandidate?

/-- A version, which is two numbers with a point between them, each of at most nine digits. -/
def version? (c : Cursor) : Option Cursor := do
  let number (c : Cursor) : Option Cursor :=
    let (digits, c) := c.takeWhile Char.isDigit
    if digits.isEmpty || digits.length > 9 then none else some c
  let c ← number (c.skipWhile isBlank)
  if c.isAt (· = '.') then number c.skip else none

/-- A handle of a tag: an exclamation mark, and possibly a word and another one. -/
def handle? (c : Cursor) : Option (List Char × Cursor) :=
  if !c.isAt (· = '!') then none
  else
    let (word, c) := c.skip.takeWhile isWord
    if c.isAt (· = '!') then some ('!' :: word ++ ['!'], c.skip) else some ('!' :: word, c)

def isUri (c : Char) : Bool := isWord c || ";/?:@&=+$,.!~*'()[]%".toList.contains c

/-- The octets of a character, with the first one given and so many still to come. -/
def octets? : Nat → Nat → List Char → Option (Nat × List Char)
  | 0, code, text => some (code, text)
  | left + 1, code, '%' :: a :: b :: rest => do
    let byte ← Scalar.hexNumber? 2 [a, b]
    if byte / 64 = 2 then octets? left (code * 256 + byte) rest else none
  | _, _, _ => none

/-- The character of a percent sign and its digits, and those of any further octets it needs. -/
def uriEscape? : List Char → Option (Char × List Char)
  | '%' :: a :: b :: rest => do
    let byte ← Scalar.hexNumber? 2 [a, b]
    let left ← if byte < 128 then some 0 else if byte / 32 = 6 then some 1
      else if byte / 16 = 14 then some 2 else if byte / 8 = 30 then some 3 else none
    let (code, rest) ← octets? left byte rest
    (Scalar.charOfNumber? code).map (·, rest)
  | _ => none

def uri? : Nat → List Char → Cursor → Option (List Char × Cursor)
  | 0, text, c => some (text, c)
  | fuel + 1, text, c =>
    match c.head? with
    | some '%' => do
      let (ch, rest) ← uriEscape? c.rest
      uri? fuel (text ++ [ch]) (c.skipMany (c.rest.length - rest.length))
    | some ch => if isUri ch then uri? fuel (text ++ [ch]) c.skip else some (text, c)
    | none => some (text, c)

/-- A suffix of a tag, after what of it has been read already. Only after that may it be empty. -/
def suffix? (read : List Char) (c : Cursor) : Option (List Char × Cursor) := do
  let (text, c) ← uri? (c.rest.length + 1) (read.drop 1) c
  if read.isEmpty && text.isEmpty then none else some (text, c)

def tag? (c : Cursor) : Option (Token × Cursor) := do
  let (handle, suffix, c) ← if c.second? = some '<' then do
      let (suffix, c) ← suffix? [] (c.skipMany 2)
      if c.isAt (· = '>') then some ([], suffix, c.skip) else none
    else do
      let (handle, c) ← handle? c
      if handle.length ≥ 2 && handle.getLast? = some '!' then
        (suffix? [] c).map (handle, ·)
      else
        let (suffix, c) ← suffix? handle c
        if suffix.isEmpty then some ([], ['!'], c) else some (['!'], suffix, c)
  if endsWord c.head? then some (.tag (.ofList handle) (.ofList suffix), c) else none

/-- A directive has no effect, but those that are known have to be well formed. -/
def directive? (c : Cursor) : Option Cursor := do
  let (name, c) := c.skip.takeWhile isWord
  if name.isEmpty || !endsWord c.head? then none
  else
    let c ← if name = "YAML".toList then version? c
      else if name = "TAG".toList then do
        let (handle, c) ← handle? (c.skipWhile isBlank)
        if handle ≠ ['!'] && handle.getLast? ≠ some '!' then none
        else
          let (_, c) ← suffix? [] (c.skipWhile isBlank)
          if endsWord c.head? then some c else none
      else some c.skipLine
    c.endLine?

def endsAnchor (c : Option Char) : Bool :=
  c.all fun ch => isSpace ch || "?:,]\x7d%@\x60".toList.contains ch

def anchorName? (c : Cursor) : Option (String × Cursor) :=
  let (name, c) := c.skip.takeWhile isWord
  if name.isEmpty || !endsAnchor c.head? then none else some (.ofList name, c)

def maxFlowLevel : Nat := 255

def openFlow? (l : Layout) (t : Token) : Option Layout := do
  let l ← l.addCandidate?
  if l.flowLevel = maxFlowLevel then none
  else some ((({ l with candidates := none :: l.candidates }.allowKey true).emit t).skip 1)

def closeFlow? (l : Layout) (t : Token) : Option Layout := do
  let l ← l.dropCandidate?
  let l := if l.inFlow then { l with candidates := l.candidates.drop 1 } else l
  some (((l.allowKey false).emit t).skip 1)

def flowEntry? (l : Layout) : Option Layout := do
  let l ← l.dropCandidate?
  some (((l.allowKey true).emit .flowEntry).skip 1)

def entry? (l : Layout) : Option Layout :=
  if l.inFlow || !l.keyAllowed then none
  else do
    let l ← (l.indentTo l.cursor.column l.tokens.size .sequenceStart).dropCandidate?
    some (((l.allowKey true).emit .entry).skip 1)

def key? (l : Layout) : Option Layout :=
  if !l.inFlow && !l.keyAllowed then none
  else do
    let l ← (l.indentTo l.cursor.column l.tokens.size .mappingStart).dropCandidate?
    some (((l.allowKey !l.inFlow).emit .key).skip 1)

/-- A colon makes a key of the candidate, if there is one. -/
def value? (l : Layout) : Option Layout :=
  match l.candidates with
  | some c :: rest =>
    let l := { l with
      tokens := l.tokens.insertIdxIfInBounds c.token .key
      candidates := none :: rest }
    let l := l.indentTo c.cursor.column c.token .mappingStart
    some (((l.allowKey false).emit .value).skip 1)
  | _ =>
    if !l.inFlow && !l.keyAllowed then none
    else
      let l := l.indentTo l.cursor.column l.tokens.size .mappingStart
      some (((l.allowKey !l.inFlow).emit .value).skip 1)

def mark? (l : Layout) (t : Token) : Option Layout := do
  let l ← l.outermost?
  some (((l.allowKey false).emit t).skip 3)

def named? (l : Layout) (token : String → Token) : Option Layout := do
  let l ← l.addCandidate?
  let (name, c) ← anchorName? l.cursor
  some { (l.allowKey false).emit (token name) with cursor := c }

def tagged? (l : Layout) : Option Layout := do
  let l ← l.addCandidate?
  let (token, c) ← tag? l.cursor
  some { (l.allowKey false).emit token with cursor := c }

def plain? (l : Layout) : Option Layout := do
  let l ← l.addCandidate?
  let (text, broken, c) ← Scalar.plain? l.inFlow (l.indent + 1) l.cursor
  some { (l.allowKey broken).emit (.scalar (.ofList text) true) with cursor := c }

/-- Right behind a quoted key, the colon needs no blank after it. -/
def quoted? (l : Layout) (single : Bool) : Option Layout := do
  let l ← l.addCandidate?
  let (text, c) ← Scalar.quoted? single l.cursor
  some { (l.allowKey false).emit (.scalar (.ofList text) false) with
    cursor := c, adjacent := some c.index }

def block? (l : Layout) (folded : Bool) : Option Layout := do
  let l ← l.addCandidate?
  let (text, c) ← Scalar.block? folded l.indent l.cursor
  some { (l.allowKey true).emit (.scalar (.ofList text) false) with cursor := c }

def directiveLine? (l : Layout) : Option Layout := do
  let l ← l.outermost?
  let c ← directive? l.cursor
  some { (l.allowKey false).emit .directive with cursor := c }

def isValueSign (l : Layout) (next : Option Char) : Bool :=
  endsWord next || (l.inFlow && (next.any isFlowMark || l.adjacent = some l.cursor.index))

def token? (l : Layout) (ch : Char) : Option Layout :=
  let next := l.cursor.second?
  match ch with
  | '[' => l.openFlow? .flowSequenceStart
  | '{' => l.openFlow? .flowMappingStart
  | ']' => l.closeFlow? .flowSequenceEnd
  | '}' => l.closeFlow? .flowMappingEnd
  | ',' => l.flowEntry?
  | '*' => l.named? .alias
  | '&' => l.named? .anchor
  | '!' => l.tagged?
  | '\'' => l.quoted? true
  | '"' => l.quoted? false
  | '-' => if endsWord next then l.entry? else l.plain?
  | '?' => if endsWord next then l.key? else l.plain?
  | ':' => if l.isValueSign next then l.value? else l.plain?
  | '|' => if l.inFlow then l.plain? else l.block? false
  | '>' => if l.inFlow then l.plain? else l.block? true
  | '%' | '@' | '\x60' => none
  | _ => l.plain?

/-- Takes the next token, or gives all of them at the end of the text. -/
def next? (l : Layout) : Option (Layout ⊕ Array Token) := do
  let l ← (skipSpace (l.cursor.rest.length + 1) l).dropStale?
  let l := l.unindent l.cursor.column
  match l.cursor.head? with
  | none => (·.tokens) <$> l.outermost? |>.map .inr
  | some ch =>
    .inl <$>
      if l.cursor.column = 0 && ch = '%' then l.directiveLine?
      else if l.cursor.isAtMark '-' then l.mark? .documentStart
      else if l.cursor.isAtMark '.' then l.mark? .documentEnd
      else l.token? ch

/-- Every token takes at least one character. -/
def finish? : Nat → Layout → Option (Array Token)
  | 0, _ => none
  | fuel + 1, l =>
    match l.next? with
    | some (.inl l) => finish? fuel l
    | some (.inr tokens) => some tokens
    | none => none

end Layout

def Token.ofText? (text : String) : Option (List Token) :=
  (Layout.finish? (text.length + 2) (.start text.toList)).map (·.toList)

end FlowRuntime.Yaml
