import Mathlib.Data.List.Lex
import Mathlib.Tactic.SplitIfs

/-!
The order of texts. Of two characters the one with the lower code point has the lower bytes, whatever
follows them, so texts ascend by code points as they ascend by bytes.
-/
namespace FlowRuntime.Text

def bytes (s : String) : List UInt8 := s.toUTF8.data.toList

theorem bytes_eq (s : String) : bytes s = s.toList.flatMap String.utf8EncodeChar := by
  have whole : s = String.ofList s.toList := String.ofList_toList.symm
  rw [bytes, String.toUTF8_eq_toByteArray]
  conv_lhs => rw [whole, String.toByteArray_ofList]
  simp [List.utf8Encode]

theorem lex_cons {a b : Nat} {as bs : List UInt8} (small : b < 256) (le : a ≤ b)
    (later : a = b → List.Lex (· < ·) as bs) :
    List.Lex (· < ·) (UInt8.ofNat a :: as) (UInt8.ofNat b :: bs) := by
  rcases Nat.lt_or_eq_of_le le with lt | same
  · apply List.Lex.rel
    rw [UInt8.lt_iff_toNat_lt, UInt8.toNat_ofNat', UInt8.toNat_ofNat']
    omega
  · subst same
    exact .cons (later rfl)

theorem encode_lt {c d : Char} (lt : c < d) (rest rest' : List UInt8) :
    List.Lex (· < ·) (String.utf8EncodeChar c ++ rest) (String.utf8EncodeChar d ++ rest') := by
  have below : c.val.toNat < d.val.toNat := lt
  have bound : d.val.toNat < 1114112 := by
    have valid := d.valid
    simp only [UInt32.isValidChar, Nat.isValidChar] at valid
    omega
  unfold String.utf8EncodeChar
  dsimp only
  -- More bytes come with a greater first one, and equally many are digits of the code point.
  split_ifs <;> (try omega) <;> simp only [List.cons_append, List.nil_append]
  all_goals
    repeat refine lex_cons (by omega) (by omega) fun _ => ?_
    omega

theorem flatMap_encode_lt {cs ds : List Char} (lt : List.Lex (· < ·) cs ds) :
    List.Lex (· < ·) (cs.flatMap String.utf8EncodeChar) (ds.flatMap String.utf8EncodeChar) := by
  induction lt with
  | @nil d ds =>
    rw [List.flatMap_nil, List.flatMap_cons]
    cases bytes : String.utf8EncodeChar d with
    | nil => exact absurd bytes String.utf8EncodeChar_ne_nil
    | cons first others => exact .nil
  | cons _ ih =>
    rw [List.flatMap_cons, List.flatMap_cons]
    exact ih.append_left _ _
  | rel lt =>
    rw [List.flatMap_cons, List.flatMap_cons]
    exact encode_lt lt _ _

theorem compare_eq_lt_iff {s t : String} : compare s t = .lt ↔ s < t :=
  compareOfLessAndEq_eq_lt

theorem bytes_lt {s t : String} (lt : s < t) : List.Lex (· < ·) (bytes s) (bytes t) := by
  rw [bytes_eq, bytes_eq]
  exact flatMap_encode_lt lt

theorem compare_eq_lt_iff_bytes {s t : String} :
    compare s t = .lt ↔ List.Lex (· < ·) (bytes s) (bytes t) := by
  constructor
  · intro lt
    exact bytes_lt (compare_eq_lt_iff.mp lt)
  · intro lt
    cases order : compare s t with
    | lt => rfl
    | eq =>
      rw [Std.LawfulEqOrd.eq_of_compare order] at lt
      exact absurd lt (irrefl _)
    | gt =>
      have gt : compare t s = .lt := Std.OrientedCmp.lt_of_gt order
      exact absurd (bytes_lt (compare_eq_lt_iff.mp gt)) (asymm lt)

end FlowRuntime.Text
