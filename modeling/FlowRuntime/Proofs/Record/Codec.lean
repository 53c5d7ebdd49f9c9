import FlowRuntime.Json.Codec
import FlowRuntime.Proofs.Json.Text
import FlowRuntime.Proofs.SortedMap
import FlowRuntime.Record.Basic

/-!
A run record is read back from what is written for it, field by field: a record
whose names are among those asked for, each given once, is looked up by them, and
every kind of value that a field may hold is read back from what is written for
that kind.
-/
namespace FlowRuntime

namespace Document

theorem pick_eq_some {δ : Type} {names : List String} {members : List (String × δ)}
    (known : ∀ m ∈ members, m.1 ∈ names) (distinct : (members.map (·.1)).Nodup) :
    ∃ picked, pick names (members.map fun m => (some m.1, m.2)) = some picked
      ∧ ∀ k, picked.get? k = SortedMap.lookup k members := by
  induction members with
  | nil => exact ⟨.empty, rfl, fun _ => rfl⟩
  | cons head rest ih =>
    obtain ⟨name, v⟩ := head
    rw [List.map_cons, List.nodup_cons] at distinct
    obtain ⟨picked, rests, found⟩ :=
      ih (fun m mem => known m (List.mem_cons_of_mem _ mem)) distinct.2
    have asked : name ∈ names := known _ List.mem_cons_self
    have fresh : picked.get? name = none := by
      cases again : SortedMap.lookup name rest with
      | none => rw [found, again]
      | some w => exact absurd (List.mem_map_of_mem (SortedMap.mem_of_lookup again)) distinct.1
    refine ⟨picked.insert name v, ?_, fun k => ?_⟩
    · simp [pick, rests, asked, SortedMap.contains, fresh]
    · rw [SortedMap.get?_insert, found]
      simp [SortedMap.lookup]

end Document

namespace Json
open Document

theorem bind_fields?_record {α : Type} {names : List String} {members : List (String × Json)}
    {read : SortedMap String Json → Option α} {a : α} (known : ∀ m ∈ members, m.1 ∈ names)
    (distinct : (members.map (·.1)).Nodup)
    (reads : ∀ fields : SortedMap String Json,
      (∀ k, fields.get? k = SortedMap.lookup k members) → read fields = some a) :
    (fields? names (record members) >>= read) = some a := by
  obtain ⟨fields, given, found⟩ := pick_eq_some known distinct
  have picked : fields? names (record members) = some fields := given
  rw [picked]
  exact reads fields found

@[simp] theorem text?_ofText (s : String) : Document.text? (ofText s) = some s := rfl

@[simp] theorem int64?_ofInt64 (n : Int64) : int64? (ofInt64 n) = some n := by
  have lower := n.le_toInt
  have upper := n.toInt_lt
  have integer : Document.integer? (ofInt64 n) = some n.toInt := rfl
  have within : -9223372036854775808 ≤ n.toInt ∧ n.toInt < 9223372036854775808 := by omega
  simp only [int64?, integer, within]
  simp

theorem nullable_ofOption {α : Type} {read : Json → Option α} {write : α → Json}
    (reads : ∀ a, read (write a) = some a) (given : ∀ a, isNull (write a) = false)
    (o : Option α) : nullable read (ofOption write o) = some o := by
  cases o with
  | none => rfl
  | some a => simp [nullable, ofOption, Document.isNull, given, reads]

theorem mapM_argument? (entries : List (String × String)) :
    (entries.map fun e => (some e.1, ofText e.2)).mapM argument? = some entries := by
  induction entries with
  | nil => rfl
  | cons e rest ih => simp [argument?, ih]

@[simp] theorem args?_ofArgs (args : Args) : args? (ofArgs args) = some args := by
  have members : Document.members? (ofArgs args)
      = some (args.entries.map fun e => (some e.1, ofText e.2)) := by
    simp [ofArgs, record, Document.members?, Json.members?]
  simp only [args?, members, mapM_argument?, Option.map_some, SortedMap.ofList_entries]

end Json

namespace RunStatus

theorem ofText?_text : ∀ s : RunStatus, ofText? s.text = some s := by
  intro s
  cases s <;> decide

end RunStatus

theorem ProgramType.ofText?_text (t : ProgramType) : ofText? t.text = some t := by
  cases t <;> decide

namespace Uuid

theorem ofDigits?_digits (u : Uuid) : ofDigits? (u.digits.map hexDigit) = some u := by
  have each (ds : List (Fin 16)) : (ds.map hexDigit).mapM hexDigit? = some ds := by
    induction ds with
    | nil => rfl
    | cons d ds ih => simp [hexDigit?_hexDigit, ih]
  simp [ofDigits?, each, u.length_digits]

theorem ofHyphenated?_groups {a b c d e : List Char} (ha : a.length = 8) (hb : b.length = 4)
    (hc : c.length = 4) (hd : d.length = 4) (he : e.length = 12) :
    ofHyphenated? (a ++ '-' :: b ++ '-' :: c ++ '-' :: d ++ '-' :: e)
      = ofDigits? (a ++ b ++ c ++ d ++ e) := by
  simp [ofHyphenated?, List.drop_append, List.drop_eq_nil_of_le, ha, hb, hc, hd, he]

theorem groups_append (cs : List Char) :
    cs.take 8 ++ (cs.drop 8).take 4 ++ (cs.drop 12).take 4 ++ (cs.drop 16).take 4 ++ cs.drop 20
      = cs := by
  have join (n : Nat) : cs.take n ++ (cs.drop n).take 4 = cs.take (n + 4) := List.take_add.symm
  rw [join, join, join, List.take_append_drop]

theorem hexDigit_ne : ∀ d, hexDigit d ≠ 'u' := by decide

theorem unnamed_text (u : Uuid) : Text.after? "urn:uuid:".toList u.text.toList = none := by
  obtain ⟨digits, length⟩ := u
  cases digits with
  | nil => simp at length
  | cons d rest => simp [text, Text.after?, (hexDigit_ne d).symm]

theorem parse?_text (u : Uuid) : parse? u.text = some u := by
  have length : (u.digits.map hexDigit).length = 32 := by rw [List.length_map, u.length_digits]
  have read : ofHyphenated? u.text.toList = some u := by
    rw [text, String.toList_ofList, ofHyphenated?_groups, groups_append, ofDigits?_digits]
    all_goals simp [length]
  have long : u.text.toList.length ≠ 32 := by
    simp [text, length]
  simp only [parse?, unnamed_text, long, read, if_false]

end Uuid

open Document Json

@[simp] theorem ProgramType.read?_ofText (t : ProgramType) : read? (ofText t.text) = some t :=
  t.ofText?_text

@[simp] theorem RunStatus.read?_ofText (s : RunStatus) : read? (ofText s.text) = some s :=
  s.ofText?_text

@[simp] theorem Uuid.read?_ofText (u : Uuid) : read? (ofText u.text) = some u := u.parse?_text

@[simp] theorem ProgramId.read?_toJson (p : ProgramId) : read? p.toJson = some p := by
  apply bind_fields?_record (by simp) (by simp)
  intro fields found
  simp [required, found, SortedMap.lookup]

@[simp] theorem RunId.read?_toJson (r : RunId) : read? r.toJson = some r := by
  apply bind_fields?_record (by simp) (by simp)
  intro fields found
  simp [required, found, SortedMap.lookup]

@[simp] theorem ProgramRunId.read?_toJson (r : ProgramRunId) : read? r.toJson = some r := by
  apply bind_fields?_record (by simp) (by simp)
  intro fields found
  simp [required, found, SortedMap.lookup]

theorem RunRecord.read?_toJson (r : RunRecord) : read? r.toJson = some r := by
  have stop : nullable int64? (ofOption ofInt64 r.stopSecs) = some r.stopSecs :=
    nullable_ofOption int64?_ofInt64 (fun _ => rfl) _
  have failure : nullable Document.text? (ofOption ofText r.failure) = some r.failure :=
    nullable_ofOption text?_ofText (fun _ => rfl) _
  apply bind_fields?_record (by simp) (by simp)
  intro fields found
  simp [required, defaulted, found, SortedMap.lookup, stop, failure]

end FlowRuntime
