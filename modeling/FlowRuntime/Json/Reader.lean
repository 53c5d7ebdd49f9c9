import FlowRuntime.Json.Token

/-!
JSON values from their tokens, by a machine with a stack of the arrays and
objects that are still open. Text holds exactly one value.
-/
namespace FlowRuntime.Json

/-- An open array or object: what it holds so far, backwards, and the key awaiting its value. -/
inductive Frame where
  | array (reversed : List Json)
  | object (reversed : List (Option String × Json)) (key : Option String)

inductive Expecting where
  | value
  | valueOrClose
  | key (reversed : List (Option String × Json))
  | keyOrClose
  | colon (reversed : List (Option String × Json)) (key : Option String)
  | separator
  | nothing (result : Json)

structure Reader where
  stack : List Frame
  expecting : Expecting

namespace Reader

def start : Reader := ⟨[], .value⟩

def give (v : Json) : List Frame → Reader
  | [] => ⟨[], .nothing v⟩
  | .array reversed :: stack => ⟨.array (v :: reversed) :: stack, .separator⟩
  | .object reversed key :: stack => ⟨.object ((key, v) :: reversed) none :: stack, .separator⟩

def beginValue (stack : List Frame) : Token → Option Reader
  | .openArray => some ⟨.array [] :: stack, .valueOrClose⟩
  | .openObject => some ⟨stack, .keyOrClose⟩
  | .null => some (give .null stack)
  | .bool b => some (give (.bool b) stack)
  | .number n => some (give (.number n) stack)
  | .text s => some (give (.text s) stack)
  | _ => none

def closeArray : List Frame → Option Reader
  | .array reversed :: stack => some (give (.array reversed.reverse) stack)
  | _ => none

def step (r : Reader) (t : Token) : Option Reader :=
  match r.expecting, t with
  | .value, t => beginValue r.stack t
  | .valueOrClose, .closeArray => closeArray r.stack
  | .valueOrClose, t => beginValue r.stack t
  | .keyOrClose, .closeObject => some (give (.object []) r.stack)
  | .keyOrClose, .text key => some ⟨r.stack, .colon [] key⟩
  | .key reversed, .text key => some ⟨r.stack, .colon reversed key⟩
  | .colon reversed key, .colon => some ⟨.object reversed key :: r.stack, .value⟩
  | .separator, .comma =>
    match r.stack with
    | .object reversed _ :: stack => some ⟨stack, .key reversed⟩
    | .array _ :: _ => some ⟨r.stack, .value⟩
    | [] => none
  | .separator, .closeArray => closeArray r.stack
  | .separator, .closeObject =>
    match r.stack with
    | .object reversed _ :: stack => some (give (.object reversed.reverse) stack)
    | _ => none
  | _, _ => none

def run : Reader → List Token → Option Reader
  | r, [] => some r
  | r, t :: rest =>
    match r.step t with
    | none => none
    | some r => r.run rest

def result? (r : Reader) : Option Json :=
  match r.expecting with
  | .nothing v => some v
  | _ => none

end Reader

def ofTokens? (tokens : List Token) : Option Json :=
  match Reader.start.run tokens with
  | none => none
  | some r => r.result?

def parse? (s : String) : Option Json :=
  match tokens s.toList with
  | none => none
  | some ts => ofTokens? ts

end FlowRuntime.Json
