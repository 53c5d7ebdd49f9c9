import FlowRuntime.Proofs.Record.Codec

/-!
An application is read back from what is written for it, down to its stages and
connections. With the text of a JSON value being read as that value, nothing is lost
when a document is written; so a document that was read may be written and read
again, however it was spelled, with fields left out, repeated keys or as a list.
-/
namespace FlowRuntime

open Document Json

namespace Json

@[simp] theorem uint32?_ofNat (n : UInt32) : uint32? (ofNat n.toNat) = some n := by
  have bound := n.toNat_lt
  have integer : Document.integer? (ofNat n.toNat) = some (n.toNat : Int) := rfl
  have within : 0 ≤ (n.toNat : Int) ∧ (n.toNat : Int) < 4294967296 := by omega
  simp only [uint32?, integer, within]
  simp

theorem list?_map {α : Type} {read : Json → Option α} {write : α → Json}
    (reads : ∀ a, read (write a) = some a) (items : List α) :
    list? read (.array (items.map write)) = some items := by
  have each : (items.map write).mapM read = some items := by
    induction items with
    | nil => rfl
    | cons a rest ih => simp [reads, ih]
  exact each

end Json

@[simp] theorem StageSpec.read?_toJson (s : StageSpec) : read? s.toJson = some s := by
  apply bind_fields?_record (by simp) (by simp)
  intro fields found
  simp [required, defaulted, found, SortedMap.lookup]

@[simp] theorem ConnectionSource.read?_toJson (s : ConnectionSource) :
    read? s.toJson = some s := by
  cases s with
  | stream name | stage name => simp [read?, toJson, record, Document.variant?, Json.variant?]

@[simp] theorem FlowConnection.read?_toJson (c : FlowConnection) : read? c.toJson = some c := by
  apply bind_fields?_record (by simp) (by simp)
  intro fields found
  simp [required, defaulted, found, SortedMap.lookup]

@[simp] theorem FlowSpec.read?_toJson (f : FlowSpec) : read? f.toJson = some f := by
  have stages := list?_map StageSpec.read?_toJson f.stages
  have connections := list?_map FlowConnection.read?_toJson f.connections
  apply bind_fields?_record (by simp) (by simp)
  intro fields found
  simp [required, defaulted, found, SortedMap.lookup, stages, connections]

@[simp] theorem ApplicationSpec.read?_toJson (a : ApplicationSpec) : read? a.toJson = some a := by
  have flows := list?_map FlowSpec.read?_toJson a.flows
  apply bind_fields?_record (by simp) (by simp)
  intro fields found
  simp [required, defaulted, found, SortedMap.lookup, flows]

namespace Json
variable {α : Type}

def decode? (read : Json → Option α) (text : String) : Option α := (parse? text).bind read

def encode (write : α → Json) (a : α) : String := (write a).render

/-- Reading undoes writing, and adds nothing when what it gave is written and read again. -/
structure Undoes (read : Json → Option α) (write : α → Json) : Prop where
  written : ∀ a, decode? read (encode write a) = some a
  again : ∀ text, (decode? read text).bind (fun a => decode? read (encode write a))
    = decode? read text

theorem undoes {read : Json → Option α} {write : α → Json}
    (reads : ∀ a, read (write a) = some a) : Undoes read write := by
  have written (a : α) : decode? read (encode write a) = some a := by
    rw [decode?, encode, parse?_render]
    exact reads a
  constructor
  · exact written
  · intro text
    simp only [written]
    exact Option.bind_fun_some _

end Json

theorem reading_undoes_writing :
    Undoes RunRecord.read? RunRecord.toJson ∧ Undoes ProgramRunId.read? ProgramRunId.toJson
      ∧ Undoes ApplicationSpec.read? ApplicationSpec.toJson
      ∧ Undoes FlowSpec.read? FlowSpec.toJson ∧ Undoes StageSpec.read? StageSpec.toJson
      ∧ Undoes FlowConnection.read? FlowConnection.toJson
      ∧ Undoes ConnectionSource.read? ConnectionSource.toJson :=
  ⟨undoes RunRecord.read?_toJson, undoes ProgramRunId.read?_toJson,
    undoes ApplicationSpec.read?_toJson, undoes FlowSpec.read?_toJson,
    undoes StageSpec.read?_toJson, undoes FlowConnection.read?_toJson,
    undoes ConnectionSource.read?_toJson⟩

end FlowRuntime
