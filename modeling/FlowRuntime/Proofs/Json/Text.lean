import FlowRuntime.Json.Reader
import FlowRuntime.Json.Writer
import Mathlib.Tactic.IntervalCases

/-!
Reading undoes writing: the text written for a value is read as that value,
whatever characters its texts hold. A value is written as its words, one after the
other, and found again as these words; a number has no end of its own, so that
what follows a value must not go on with it.
-/
namespace FlowRuntime.Json

mutual

def toTokens : Json → List Token
  | .null => [.null]
  | .bool b => [.bool b]
  | .number n => [.number n]
  | .text s => [.text s]
  | .array [] => [.openArray, .closeArray]
  | .array (v :: rest) => .openArray :: toTokens v ++ itemTokens rest
  | .object [] => [.openObject, .closeObject]
  | .object ((k, v) :: rest) => .openObject :: .text k :: .colon :: toTokens v ++ memberTokens rest

def itemTokens : List Json → List Token
  | [] => [.closeArray]
  | v :: rest => .comma :: toTokens v ++ itemTokens rest

def memberTokens : List (Option String × Json) → List Token
  | [] => [.closeObject]
  | (k, v) :: rest => .comma :: .text k :: .colon :: toTokens v ++ memberTokens rest

end

section
variable {m n : Mode} {c : Char} {rest : List Char} {f : List Token}

theorem tokensFrom_step (step : m.step c = some (f, n)) :
    tokensFrom m (c :: rest) = (tokensFrom n rest).map (f ++ ·) := by
  rw [tokensFrom, step]

theorem tokensFrom_quiet (step : m.step c = some ([], n)) :
    tokensFrom m (c :: rest) = tokensFrom n rest := by
  rw [tokensFrom_step step]
  simp

end

/-! ## Numbers -/

/-- What may follow a value: nothing, or what separates it from the next. -/
inductive Ends : List Char → Prop where
  | nil : Ends []
  | comma (rest : List Char) : Ends (',' :: rest)
  | array (rest : List Char) : Ends (']' :: rest)
  | object (rest : List Char) : Ends ('}' :: rest)

section
variable {negative : Bool} {part : NumberPart} {token : Token} {rest : List Char}

theorem tokensFrom_number_end (whole : part.finish negative = some token) (ends : Ends rest) :
    tokensFrom (.number negative part) rest = (tokensFrom .between rest).map (token :: ·) := by
  have separated {c : Char} {t : Token} {cs : List Char} (foreign : part.next c = none)
      (begins : begin? c = some ([t], .between)) :
      tokensFrom (.number negative part) (c :: cs)
        = (tokensFrom .between (c :: cs)).map (token :: ·) := by
    have step : (Mode.number negative part).step c = some ([token, t], .between) := by
      simp only [Mode.step, foreign, whole, begins]
    rw [tokensFrom_step step, tokensFrom_step (m := .between) begins, Option.map_map]
    rfl
  have complete : part = .zero ∨ (∃ m, part = .whole m) ∨ part = .fraction
      ∨ part = .exponentDigits := by
    cases part <;> simp [NumberPart.finish] at whole ⊢
  cases ends with
  | nil => simp [tokensFrom, Mode.finish, whole]
  | comma | array | object =>
    refine separated ?_ rfl
    obtain rfl | ⟨m, rfl⟩ | rfl | rfl := complete <;> rfl

theorem digit?_digitChar : ∀ d < 10, digit? d.digitChar = some d := by decide

theorem tokensFrom_whole_digit {m d : Nat} (small : d < 10) :
    tokensFrom (.number negative (.whole m)) (d.digitChar :: rest)
      = tokensFrom (.number negative (.whole (10 * m + d))) rest := by
  apply tokensFrom_quiet
  simp [Mode.step, NumberPart.next, digit?_digitChar d small]

theorem starts_between : ∀ d < 10, d ≠ 0 →
    Mode.between.step d.digitChar = some ([], .number false (.whole d)) := by
  intro d small positive
  interval_cases d
  · contradiction
  all_goals rfl

theorem starts_sign : ∀ d < 10, d ≠ 0 →
    (Mode.number true .sign).step d.digitChar = some ([], .number true (.whole d)) := by
  intro d small positive
  simp [Mode.step, NumberPart.next, digit?_digitChar d small, positive]

theorem tokensFrom_digits {mode : Mode}
    (starts : ∀ d < 10, d ≠ 0 → mode.step d.digitChar = some ([], .number negative (.whole d)))
    {n : Nat} (positive : n ≠ 0) (rest : List Char) :
    tokensFrom mode (Nat.toDigits 10 n ++ rest)
      = tokensFrom (.number negative (.whole n)) rest := by
  induction n using Nat.strongRecOn generalizing rest with
  | ind n ih =>
    by_cases single : n < 10
    · rw [Nat.toDigits_of_lt_base single]
      exact tokensFrom_quiet (starts n single positive)
    · have shorter : n / 10 < n := by omega
      have last : n % 10 < 10 := by omega
      rw [Nat.toDigits_of_base_le (by decide) (by omega), List.append_assoc,
        ih (n / 10) shorter (by omega), List.singleton_append, tokensFrom_whole_digit last]
      congr 3
      omega

theorem tokensFrom_writeNumber (n : Option Int) (ends : Ends rest) :
    tokensFrom .between (writeNumber n ++ rest)
      = (tokensFrom .between rest).map (.number n :: ·) := by
  match n with
  | none =>
    have point : tokensFrom .between (writeNumber none ++ rest)
        = tokensFrom (.number false .fraction) rest := by
      simp [writeNumber, tokensFrom, Mode.step, begin?, isBlank, digit?, NumberPart.next,
        NumberPart.next.tail]
    rw [point, tokensFrom_number_end rfl ends]
  | some (.ofNat 0) =>
    have zero : tokensFrom .between (writeNumber (some 0) ++ rest)
        = tokensFrom (.number false .zero) rest := tokensFrom_quiet rfl
    exact zero.trans (tokensFrom_number_end rfl ends)
  | some (.ofNat (m + 1)) =>
    have digits : writeNumber (some (.ofNat (m + 1))) = Nat.toDigits 10 (m + 1) :=
      Nat.toList_repr
    rw [digits, tokensFrom_digits starts_between (by omega), tokensFrom_number_end rfl ends]
    rfl
  | some (.negSucc m) =>
    have digits : writeNumber (some (.negSucc m)) = '-' :: Nat.toDigits 10 (m + 1) := by
      simp [writeNumber, toString, Int.repr]
    rw [digits, List.cons_append, tokensFrom_quiet (n := .number true .sign) rfl,
      tokensFrom_digits starts_sign (by omega), tokensFrom_number_end rfl ends]
    rfl

end

/-! ## Texts -/

section
variable {rest : List Char}

theorem tokensFrom_escape (l : Literal) {e c : Char} (known : escaped? e = some c)
    (direct : e ≠ 'u') :
    tokensFrom (.text l) ('\\' :: e :: rest) = tokensFrom (.text (l.push c)) rest := by
  rw [tokensFrom_quiet (n := .escape l) rfl, tokensFrom_quiet]
  simp [Mode.step, known, direct]

theorem tokensFrom_unit (l : Literal) (d₃ d₂ d₁ d₀ : Fin 16) (rest : List Char) :
    tokensFrom (.text l)
        ('\\' :: 'u' :: hexDigit d₃ :: hexDigit d₂ :: hexDigit d₁ :: hexDigit d₀ :: rest)
      = tokensFrom (.text (l.pushUnit (16 * (16 * (16 * d₃.val + d₂.val) + d₁.val) + d₀.val)))
          rest := by
  have digit (missing value : Nat) (d : Fin 16) (rest : List Char) :
      tokensFrom (.unit l (missing + 1) value) (hexDigit d :: rest)
        = tokensFrom (.unit l missing (16 * value + d.val)) rest := by
    apply tokensFrom_quiet
    simp [Mode.step, hexDigit?_hexDigit]
  rw [tokensFrom_quiet (n := .escape l) rfl, tokensFrom_quiet (n := .unit l 3 0) rfl, digit, digit,
    digit, tokensFrom_quiet]
  simp [Mode.step, hexDigit?_hexDigit]

theorem tokensFrom_control (l : Literal) {c : Char} (control : c.toNat < 0x20) :
    tokensFrom (.text l)
        ('\\' :: 'u' :: '0' :: '0' :: hexDigitOf (c.toNat / 16) :: hexDigitOf c.toNat :: rest)
      = tokensFrom (.text (l.push c)) rest := by
  have value : 16 * (16 * (16 * (0 : Fin 16).val + (0 : Fin 16).val) + c.toNat / 16 % 16)
      + c.toNat % 16 = c.toNat := by
    rw [Fin.val_zero]
    omega
  have single : l.pushUnit c.toNat = l.push c := by
    have low : ¬ 0xD800 ≤ c.toNat := by omega
    have low' : ¬ 0xDC00 ≤ c.toNat := by omega
    simp [Literal.pushUnit, low, low']
  have read := tokensFrom_unit l 0 0 ⟨c.toNat / 16 % 16, by omega⟩ ⟨c.toNat % 16, by omega⟩ rest
  rw [value, single] at read
  exact read

theorem tokensFrom_escapeChar (l : Literal) (c : Char) :
    tokensFrom (.text l) (escapeChar c ++ rest) = tokensFrom (.text (l.push c)) rest := by
  unfold escapeChar
  split
  iterate 7 exact tokensFrom_escape l rfl (by decide)
  rename_i quote solidus _ _ _ _ _
  have notQuote : ¬ c = '"' := quote
  have notSolidus : ¬ c = '\\' := solidus
  split
  · rename_i control
    exact tokensFrom_control l control
  · rename_i printed
    apply tokensFrom_quiet
    simp [Mode.step, notQuote, notSolidus, printed]

theorem tokensFrom_escaped (l : Literal) (cs : List Char) :
    tokensFrom (.text l) (cs.flatMap escapeChar ++ rest)
      = tokensFrom (.text (cs.foldl Literal.push l)) rest := by
  induction cs generalizing l with
  | nil => rfl
  | cons c cs ih =>
    rw [List.flatMap_cons, List.append_assoc, tokensFrom_escapeChar, ih, List.foldl_cons]

theorem foldl_push {l : Literal} (whole : l.half = none) (cs : List Char) :
    cs.foldl Literal.push l = { l with reversed := cs.reverse ++ l.reversed } := by
  induction cs generalizing l with
  | nil => rfl
  | cons c cs ih =>
    have pushed : l.push c = { l with reversed := c :: l.reversed } := by
      cases l
      simp_all [Literal.push]
    rw [List.foldl_cons, ih (l := l.push c) rfl, pushed]
    simp

theorem tokensFrom_open_quote :
    tokensFrom .between ('"' :: rest) = tokensFrom (.text .start) rest := tokensFrom_quiet rfl

theorem tokensFrom_quote (l : Literal) :
    tokensFrom (.text l) ('"' :: rest) = (tokensFrom .between rest).map (.text l.finish :: ·) :=
  tokensFrom_step (f := [.text l.finish]) (n := .between) rfl

theorem finish_foldl_push (s : String) :
    (s.toList.foldl Literal.push .start).finish = some s := by
  rw [foldl_push rfl]
  simp [Literal.finish, Literal.start]

theorem tokensFrom_writeText (s : Option String) :
    tokensFrom .between (writeText s ++ rest) = (tokensFrom .between rest).map (.text s :: ·) := by
  match s with
  | none =>
    have shape : writeText none = ['"', '\\', 'u', 'd', '8', '0', '0', '"'] := by decide
    have read : (Literal.start.pushUnit 0xD800).finish = none := by decide
    have half := tokensFrom_unit .start 13 8 0 0 ('"' :: rest)
    rw [tokensFrom_quote] at half
    rw [shape]
    exact tokensFrom_open_quote.trans half
  | some s =>
    have shape : writeText (some s) = '"' :: (s.toList.flatMap escapeChar ++ ['"']) := rfl
    rw [shape, List.cons_append, List.append_assoc, tokensFrom_open_quote, tokensFrom_escaped,
      List.singleton_append, tokensFrom_quote, finish_foldl_push]

end

/-! ## Values -/

section
variable {rest : List Char}

theorem tokensFrom_mark {c : Char} {t : Token} (begins : begin? c = some ([t], .between)) :
    tokensFrom .between (c :: rest) = (tokensFrom .between rest).map (t :: ·) :=
  tokensFrom_step (m := .between) begins

theorem tokensFrom_word (next : Char) (letters : List Char) (t : Token) :
    tokensFrom (.word next letters t) (next :: letters ++ rest)
      = (tokensFrom .between rest).map (t :: ·) := by
  induction letters generalizing next with
  | nil =>
    have last : (Mode.word next [] t).step next = some ([t], .between) := by simp [Mode.step]
    exact tokensFrom_step last
  | cons after letters ih =>
    have inner : (Mode.word next (after :: letters) t).step next
        = some ([], .word after letters t) := by simp [Mode.step]
    rw [List.cons_append, List.cons_append, tokensFrom_quiet inner]
    exact ih after

theorem tokensFrom_constant {first next : Char} {letters : List Char} {t : Token}
    (begins : begin? first = some ([], .word next letters t)) :
    tokensFrom .between (first :: next :: letters ++ rest)
      = (tokensFrom .between rest).map (t :: ·) :=
  (tokensFrom_quiet (m := .between) begins).trans (tokensFrom_word next letters t)

theorem ends_items (items : List Json) : Ends (writeItems items ++ rest) := by
  cases items with
  | nil => exact .array _
  | cons => exact .comma _

theorem ends_members (members : List (Option String × Json)) :
    Ends (writeMembers members ++ rest) := by
  cases members with
  | nil => exact .object _
  | cons => exact .comma _

end

mutual

/-- The words of a written value are its own, and after them the text goes on as if it had begun
there. -/
theorem tokensFrom_write {rest : List Char} (ends : Ends rest) :
    (v : Json) → tokensFrom .between (write v ++ rest)
      = (tokensFrom .between rest).map (toTokens v ++ ·)
  | .null => by
    have shape : write .null = ['n', 'u', 'l', 'l'] := by simp [write]
    rw [shape]
    exact tokensFrom_constant (t := .null) rfl
  | .bool true => by
    have shape : write (.bool true) = ['t', 'r', 'u', 'e'] := by simp [write]
    rw [shape]
    exact tokensFrom_constant (t := .bool true) rfl
  | .bool false => by
    have shape : write (.bool false) = ['f', 'a', 'l', 's', 'e'] := by simp [write]
    rw [shape]
    exact tokensFrom_constant (t := .bool false) rfl
  | .number n => by
    rw [write]
    exact tokensFrom_writeNumber n ends
  | .text s => by
    rw [write]
    exact tokensFrom_writeText s
  | .array [] => by
    have shape : write (.array []) = ['[', ']'] := by simp [write]
    simp [shape, toTokens, tokensFrom_mark (c := '[') rfl, tokensFrom_mark (c := ']') rfl,
      Function.comp_def]
  | .array (v :: items) => by
    rw [write, List.cons_append, List.cons_append, List.append_assoc,
      tokensFrom_mark (t := .openArray) rfl, tokensFrom_write (ends_items items) v,
      tokensFrom_writeItems items]
    simp [toTokens, Function.comp_def]
  | .object [] => by
    simp [write, toTokens, tokensFrom_mark (c := '\x7b') rfl, tokensFrom_mark (c := '\x7d') rfl,
      Function.comp_def]
  | .object ((k, v) :: members) => by
    rw [write]
    simp only [List.cons_append, List.append_assoc]
    rw [tokensFrom_mark (t := .openObject) rfl, tokensFrom_writeText,
      tokensFrom_mark (t := .colon) rfl, tokensFrom_write (ends_members members) v,
      tokensFrom_writeMembers members]
    simp [toTokens, Function.comp_def]

theorem tokensFrom_writeItems {rest : List Char} : (items : List Json) →
    tokensFrom .between (writeItems items ++ rest)
      = (tokensFrom .between rest).map (itemTokens items ++ ·)
  | [] => tokensFrom_mark rfl
  | v :: items => by
    rw [writeItems, List.cons_append, List.cons_append, List.append_assoc,
      tokensFrom_mark (t := .comma) rfl, tokensFrom_write (ends_items items) v,
      tokensFrom_writeItems items]
    simp [itemTokens, Function.comp_def]

theorem tokensFrom_writeMembers {rest : List Char} : (members : List (Option String × Json)) →
    tokensFrom .between (writeMembers members ++ rest)
      = (tokensFrom .between rest).map (memberTokens members ++ ·)
  | [] => tokensFrom_mark rfl
  | (k, v) :: members => by
    rw [writeMembers]
    simp only [List.cons_append, List.append_assoc]
    rw [tokensFrom_mark (t := .comma) rfl, tokensFrom_writeText, tokensFrom_mark (t := .colon) rfl,
      tokensFrom_write (ends_members members) v, tokensFrom_writeMembers members]
    simp [memberTokens, Function.comp_def]

end

theorem tokens_write (v : Json) : tokens (write v) = some (toTokens v) := by
  have read := tokensFrom_write .nil v
  rw [List.append_nil] at read
  rw [tokens, read]
  simp [tokensFrom, Mode.finish]

/-! ## Reading -/

namespace Reader

theorem run_step {r s : Reader} {t : Token} {rest : List Token} (step : r.step t = some s) :
    r.run (t :: rest) = s.run rest := by
  rw [run, step]

mutual

theorem run_toTokens {r : Reader} (stack : List Frame) (rest : List Token)
    (waits : ∀ t, t ≠ .closeArray → r.step t = beginValue stack t) :
    (v : Json) → r.run (toTokens v ++ rest) = (give v stack).run rest
  | .null => run_step (waits .null (by simp))
  | .bool b => run_step (waits (.bool b) (by simp))
  | .number n => run_step (waits (.number n) (by simp))
  | .text s => run_step (waits (.text s) (by simp))
  | .array [] => by
    rw [toTokens, List.cons_append, run_step (waits .openArray (by simp))]
    exact run_step rfl
  | .array (v :: items) => by
    rw [toTokens, List.cons_append, List.cons_append, List.append_assoc,
      run_step (waits .openArray (by simp)), run_toTokens (.array [] :: stack) _ _ v]
    · exact run_itemTokens stack rest [v] items
    · intro t other
      cases t <;> first | rfl | contradiction
  | .object [] => by
    rw [toTokens, List.cons_append, run_step (waits .openObject (by simp))]
    exact run_step rfl
  | .object ((k, v) :: members) => by
    rw [toTokens]
    simp only [List.cons_append, List.append_assoc]
    rw [run_step (waits .openObject (by simp)), run_step (s := ⟨stack, .colon [] k⟩) rfl,
      run_step (s := ⟨.object [] k :: stack, .value⟩) rfl, run_toTokens _ _ (fun _ _ => rfl) v]
    exact run_memberTokens stack rest [(k, v)] members

theorem run_itemTokens (stack : List Frame) (rest : List Token) (reversed : List Json) :
    (items : List Json) →
      run ⟨.array reversed :: stack, .separator⟩ (itemTokens items ++ rest)
        = (give (.array (reversed.reverse ++ items)) stack).run rest
  | [] => by
    rw [itemTokens, List.append_nil]
    exact run_step rfl
  | v :: items => by
    rw [itemTokens, List.cons_append, List.cons_append, List.append_assoc,
      run_step (s := ⟨.array reversed :: stack, .value⟩) rfl,
      run_toTokens _ _ (fun _ _ => rfl) v]
    have later := run_itemTokens stack rest (v :: reversed) items
    rw [List.reverse_cons, List.append_assoc] at later
    exact later

theorem run_memberTokens (stack : List Frame) (rest : List Token)
    (reversed : List (Option String × Json)) :
    (members : List (Option String × Json)) →
      run ⟨.object reversed none :: stack, .separator⟩ (memberTokens members ++ rest)
        = (give (.object (reversed.reverse ++ members)) stack).run rest
  | [] => by
    rw [memberTokens, List.append_nil]
    exact run_step rfl
  | (k, v) :: members => by
    rw [memberTokens]
    simp only [List.cons_append, List.append_assoc]
    rw [run_step (s := ⟨stack, .key reversed⟩) rfl, run_step (s := ⟨stack, .colon reversed k⟩) rfl,
      run_step (s := ⟨.object reversed k :: stack, .value⟩) rfl,
      run_toTokens _ _ (fun _ _ => rfl) v]
    have later := run_memberTokens stack rest ((k, v) :: reversed) members
    rw [List.reverse_cons, List.append_assoc] at later
    exact later

end

end Reader

theorem parse?_render (v : Json) : parse? (render v) = some v := by
  have read := Reader.run_toTokens (r := Reader.start) [] [] (fun _ _ => rfl) v
  rw [List.append_nil] at read
  rw [parse?, render, String.toList_ofList, tokens_write]
  simp only [ofTokens?, read]
  rfl

end FlowRuntime.Json
