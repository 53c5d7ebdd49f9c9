/-!
What follows a fixed beginning of a text. `after?_eq_some_iff` is the whole
meaning: the rest is found exactly when the text is the beginning and the rest.
-/
namespace FlowRuntime.Text

def after? : List Char → List Char → Option (List Char)
  | [], rest => some rest
  | _ :: _, [] => none
  | b :: start, c :: rest => if b = c then after? start rest else none

theorem after?_eq_some_iff {start s rest : List Char} :
    after? start s = some rest ↔ s = start ++ rest := by
  induction start generalizing s with
  | nil => simp [after?, eq_comm]
  | cons b start ih =>
    cases s with
    | nil => simp [after?]
    | cons c s =>
      by_cases same : b = c
      · simp [after?, same, ih]
      · simp [after?, same, Ne.symm same]

end FlowRuntime.Text
