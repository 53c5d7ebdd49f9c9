import FlowRuntime.Instance.Options
import FlowRuntime.Proofs.FlowSpec
import FlowRuntime.Proofs.SortedMap

/-!
Where the arguments of a stage come from. Behind the scope of a stage the name of a run argument
determines a key, so the arguments of a stage follow key by key from three places: what is scoped
to it, what is meant for all stages, and what is declared. A scope is a name that may have dots
in it. We verify that what is scoped to another stage stays unseen exactly if neither of the two
names goes on from the other behind a dot.
-/
namespace FlowRuntime
namespace Args

theorem isScoped_iff {key : String} : isScoped key = true ↔ scope.toList <+: key.toList := by
  unfold isScoped
  rw [Option.isSome_iff_exists]
  constructor
  · intro ⟨rest, after⟩
    exact ⟨rest, (Text.after?_eq_some_iff.mp after).symm⟩
  · intro ⟨rest, whole⟩
    exact ⟨rest, Text.after?_eq_some_iff.mpr whole.symm⟩

theorem scopedKey?_eq_some_iff {stage key k : String} :
    scopedKey? stage key = some k ↔ k ≠ "" ∧ key = stageScope stage ++ k := by
  have whole : key = stageScope stage ++ k ↔
      Text.after? (stageScope stage).toList key.toList = some k.toList := by
    rw [Text.after?_eq_some_iff, ← String.toList_append, String.toList_inj]
  rw [whole, ne_eq, ← String.toList_eq_nil_iff]
  unfold scopedKey?
  split
  · rename_i missing
    simp [missing]
  · rename_i bare
    simp [bare]
  · rename_i c rest after
    rw [after, Option.some.injEq, Option.some.injEq, ← String.toList_inj, String.toList_ofList]
    constructor
    · intro same
      simp [← same]
    · intro ⟨_, same⟩
      exact same

theorem mem_scopedEntries {stage k v : String} {run : Args} :
    (k, v) ∈ scopedEntries stage run ↔ k ≠ "" ∧ run.get? (stageScope stage ++ k) = some v := by
  unfold scopedEntries
  rw [List.mem_filterMap]
  constructor
  · intro ⟨⟨key, w⟩, given, meant⟩
    obtain ⟨k', own, same⟩ := Option.map_eq_some_iff.mp meant
    obtain ⟨named, whole⟩ := scopedKey?_eq_some_iff.mp own
    cases same
    exact ⟨named, whole ▸ SortedMap.mem_entries.mp given⟩
  · intro ⟨named, found⟩
    have own := scopedKey?_eq_some_iff.mpr ⟨named, (rfl : stageScope stage ++ k = _)⟩
    exact ⟨(stageScope stage ++ k, v), SortedMap.mem_entries.mpr found, by simp [own]⟩

theorem scopedEntries_nodup (stage : String) (run : Args) :
    ((scopedEntries stage run).map (·.1)).Nodup := by
  have keys : (scopedEntries stage run).map (·.1) = run.keys.filterMap (scopedKey? stage) := by
    unfold scopedEntries SortedMap.keys
    rw [List.map_filterMap, List.filterMap_map]
    congr 1
    funext e
    simp [Function.comp_def]
  rw [keys]
  apply (SortedMap.ascending_nodup run.keys_ascending).filterMap
  intro key key' k own own'
  rw [(scopedKey?_eq_some_iff.mp own).2, (scopedKey?_eq_some_iff.mp own').2]

theorem mem_plainEntries {k v : String} {run : Args} :
    (k, v) ∈ plainEntries run ↔ isScoped k = false ∧ run.get? k = some v := by
  simp [plainEntries, SortedMap.mem_entries, and_comm]

theorem plainEntries_nodup (run : Args) : ((plainEntries run).map (·.1)).Nodup := by
  apply List.Nodup.sublist _ (SortedMap.ascending_nodup run.keys_ascending)
  exact List.filter_sublist.map _

theorem contains_iff {m : Args} {k : String} : m.contains k = true ↔ ∃ v, m.get? k = some v :=
  Option.isSome_iff_exists

theorem get?_resolve_of_scoped {stage k v : String} {run : Args} (declared : Args) (named : k ≠ "")
    (found : run.get? (stageScope stage ++ k) = some v) :
    (resolve stage declared run).get? k = some v :=
  SortedMap.get?_insertAll_of_mem _ (scopedEntries_nodup stage run)
    (mem_scopedEntries.mpr ⟨named, found⟩)

theorem get?_resolve_of_unscoped {stage k : String} {run : Args} (declared : Args)
    (absent : ¬ (k ≠ "" ∧ run.contains (stageScope stage ++ k))) :
    (resolve stage declared run).get? k = (declared.insertAll (plainEntries run)).get? k := by
  apply SortedMap.get?_insertAll_of_not_mem
  intro given
  obtain ⟨⟨k', v⟩, mem, same⟩ := List.mem_map.mp given
  cases same
  obtain ⟨named, found⟩ := mem_scopedEntries.mp mem
  exact absent ⟨named, contains_iff.mpr ⟨v, found⟩⟩

theorem get?_insertAll_plain (declared run : Args) (k : String) :
    (declared.insertAll (plainEntries run)).get? k =
      if isScoped k = false ∧ run.contains k then run.get? k else declared.get? k := by
  split
  · rename_i given
    obtain ⟨v, found⟩ := contains_iff.mp given.2
    rw [found]
    exact SortedMap.get?_insertAll_of_mem _ (plainEntries_nodup run)
      (mem_plainEntries.mpr ⟨given.1, found⟩)
  · rename_i absent
    apply SortedMap.get?_insertAll_of_not_mem
    intro given
    obtain ⟨⟨k', v⟩, mem, same⟩ := List.mem_map.mp given
    cases same
    obtain ⟨plain, found⟩ := mem_plainEntries.mp mem
    exact absent ⟨plain, contains_iff.mpr ⟨v, found⟩⟩

theorem get?_resolve (stage : String) (declared run : Args) (k : String) :
    (resolve stage declared run).get? k =
        (if k ≠ "" ∧ run.contains ("flowlet." ++ stage ++ "." ++ k) then
          run.get? ("flowlet." ++ stage ++ "." ++ k)
        else if ¬ "flowlet.".toList <+: k.toList ∧ run.contains k then run.get? k
        else declared.get? k) ∧
      (k ∈ (resolve stage declared run).keys ↔
        k ≠ "" ∧ "flowlet." ++ stage ++ "." ++ k ∈ run.keys ∨
          ¬ "flowlet.".toList <+: k.toList ∧ k ∈ run.keys ∨ k ∈ declared.keys) := by
  have law : (resolve stage declared run).get? k =
      if k ≠ "" ∧ run.contains (stageScope stage ++ k) then run.get? (stageScope stage ++ k)
      else if ¬ scope.toList <+: k.toList ∧ run.contains k then run.get? k
      else declared.get? k := by
    split
    · rename_i given
      obtain ⟨v, found⟩ := contains_iff.mp given.2
      rw [found]
      exact get?_resolve_of_scoped declared given.1 found
    · rename_i absent
      rw [get?_resolve_of_unscoped declared absent, get?_insertAll_plain]
      simp only [← isScoped_iff, Bool.not_eq_true]
  constructor
  · exact law
  · simp only [SortedMap.mem_keys, ← contains_iff]
    rw [SortedMap.contains, law]
    change _ ↔ k ≠ "" ∧ run.contains (stageScope stage ++ k) = true ∨
      ¬ scope.toList <+: k.toList ∧ run.contains k = true ∨ declared.contains k = true
    split
    · rename_i given
      exact ⟨fun _ => .inl given, fun _ => given.2⟩
    · rename_i absent
      rw [or_iff_right absent]
      split
      · rename_i given
        exact ⟨fun _ => .inl given, fun _ => given.2⟩
      · rename_i absent
        rw [or_iff_right absent]
        rfl

/-! ## What is meant for another stage -/

def DifferIn (stage : String) (run run' : Args) : Prop :=
  ∀ key, (∀ k, k ≠ "" → key ≠ "flowlet." ++ stage ++ "." ++ k) → run.get? key = run'.get? key

def Extends (name other : String) : Prop := (other ++ ".").toList <+: name.toList

instance (name other : String) : Decidable (Extends name other) :=
  inferInstanceAs (Decidable ((other ++ ".").toList <+: name.toList))

theorem toList_scoped (stage k : String) :
    (stageScope stage ++ k).toList = scope.toList ++ ((stage ++ ".").toList ++ k.toList) := by
  simp [stageScope]

theorem extends_of_within {name other : String} (differ : name ≠ other)
    (starts : (other ++ ".").toList <+: (name ++ ".").toList) : Extends name other := by
  have dotted : (name ++ ".").toList = name.toList ++ ['.'] := String.toList_append
  rw [dotted] at starts
  rcases List.prefix_concat_iff.mp starts with whole | part
  · have dotted' : (other ++ ".").toList = other.toList ++ ['.'] := String.toList_append
    rw [dotted'] at whole
    have chars : other.toList = name.toList := List.append_cancel_right whole
    exact absurd (String.toList_inj.mp chars).symm differ
  · exact part

theorem extends_of_shared {name other k k' : String} (differ : name ≠ other)
    (shared : stageScope name ++ k = stageScope other ++ k') :
    Extends name other ∨ Extends other name := by
  have chars := congrArg String.toList shared
  rw [toList_scoped, toList_scoped] at chars
  have rests := List.append_cancel_left chars
  have starts := List.prefix_append (name ++ ".").toList k.toList
  have starts' := List.prefix_append (other ++ ".").toList k'.toList
  rw [← rests] at starts'
  rcases List.prefix_or_prefix_of_prefix starts' starts with first | second
  · exact .inl (extends_of_within differ first)
  · exact .inr (extends_of_within differ.symm second)

theorem exists_shared {name other : String} (longer : Extends name other) (k : String) :
    ∃ k', (k ≠ "" → k' ≠ "") ∧ stageScope name ++ k = stageScope other ++ k' := by
  obtain ⟨rest, whole⟩ := longer
  refine ⟨String.ofList rest ++ "." ++ k, by simp, ?_⟩
  rw [← String.toList_inj, toList_scoped, toList_scoped, String.toList_append, ← whole]
  simp

/-- Whatever is meant for the other stage, it makes no difference to this one. -/
structure Unseen (other stage : StageSpec) : Prop where
  resolved : ∀ declared run run', DifferIn other.name run run' →
    resolve stage.name declared run = resolve stage.name declared run'
  options : ∀ program (o o' : RunOptions) id count, o.runId = o'.runId →
    o.systemArgs = o'.systemArgs → DifferIn other.name o.userArgs o'.userArgs →
    InstanceOptions.forStage program o stage id count =
      InstanceOptions.forStage program o' stage id count

section
variable {stage other : StageSpec}

theorem unseen_of_unshared
    (unshared : ∀ k k', k' ≠ "" → stageScope stage.name ++ k ≠ stageScope other.name ++ k') :
    Unseen other stage := by
  have resolved (declared run run' : Args) (differ : DifferIn other.name run run') :
      resolve stage.name declared run = resolve stage.name declared run' := by
    apply SortedMap.ext_get?
    intro k
    have own : run.get? (stageScope stage.name ++ k) = run'.get? (stageScope stage.name ++ k) :=
      differ _ fun k' named => unshared k k' named
    -- A key that begins with the scope is no plain one, so plain keys are not meant for the other.
    have plain : isScoped k = false → run.get? k = run'.get? k := by
      intro unscoped
      apply differ
      intro k' named same
      have begins : isScoped k = true := by
        rw [isScoped_iff, same]
        simp only [String.toList_append, List.append_assoc]
        exact List.prefix_append _ _
      rw [unscoped] at begins
      cases begins
    by_cases given : k ≠ "" ∧ run.contains (stageScope stage.name ++ k)
    · obtain ⟨v, found⟩ := contains_iff.mp given.2
      rw [get?_resolve_of_scoped declared given.1 found,
        get?_resolve_of_scoped declared given.1 (own ▸ found)]
    · have given' : ¬ (k ≠ "" ∧ run'.contains (stageScope stage.name ++ k)) := by
        rwa [SortedMap.contains, ← own]
      rw [get?_resolve_of_unscoped declared given, get?_resolve_of_unscoped declared given',
        get?_insertAll_plain, get?_insertAll_plain]
      cases unscoped : isScoped k with
      | true => simp
      | false => simp only [SortedMap.contains, plain unscoped]
  constructor
  · exact resolved
  · intro program o o' id count sameRun sameSystem differ
    unfold InstanceOptions.forStage
    rw [sameRun, sameSystem, resolved stage.args _ _ differ]

theorem not_unseen_of_shared {k k' : String} (named : k ≠ "") (named' : k' ≠ "")
    (shared : stageScope stage.name ++ k = stageScope other.name ++ k') :
    ¬ Unseen other stage := by
  intro unseen
  let given : Args := SortedMap.empty.insert (stageScope stage.name ++ k) "1"
  have differ : DifferIn other.name given .empty := by
    intro key apart
    have away : key ≠ stageScope stage.name ++ k := by
      rw [shared]
      exact apart k' named'
    exact SortedMap.get?_insert_ne _ away _
  have found : given.get? (stageScope stage.name ++ k) = some "1" :=
    SortedMap.get?_insert_self _ _ _
  have seen := get?_resolve_of_scoped .empty named found
  rw [unseen.resolved .empty given .empty differ] at seen
  cases seen

/-- Of a valid flow, what is meant for one stage goes unseen by another one exactly if neither name
extends the other. -/
theorem unseen_iff {flow : FlowSpec} (valid : flow.validate = .ok ()) (mem : stage ∈ flow.stages)
    (mem' : other ∈ flow.stages) (apart : stage ≠ other) :
    Unseen other stage ↔ ¬ Extends stage.name other.name ∧ ¬ Extends other.name stage.name := by
  have accepted := FlowSpec.accepted_of_validate valid
  have differ : stage.name ≠ other.name := by
    intro same
    have found := accepted.stage?_name mem
    rw [same, accepted.stage?_name mem'] at found
    exact apart (Option.some.inj found).symm
  constructor
  · intro unseen
    constructor
    · intro longer
      obtain ⟨k, named, shared⟩ := exists_shared longer "k"
      exact not_unseen_of_shared (by decide) (named (by decide)) shared unseen
    · intro longer
      obtain ⟨k, named, shared⟩ := exists_shared longer "k"
      exact not_unseen_of_shared (named (by decide)) (by decide) shared.symm unseen
  · intro ⟨shorter, shorter'⟩
    apply unseen_of_unshared
    intro k k' _ shared
    rcases extends_of_shared differ shared with longer | longer
    · exact shorter longer
    · exact shorter' longer

end

def parserStage : StageSpec := ⟨"parser", 1, .empty⟩

def parsersStage : StageSpec := ⟨"parsers", 2, .empty⟩

def rawStage : StageSpec := ⟨"parser.raw", 1, .empty⟩

def intake : FlowSpec := ⟨"intake", [parserStage, parsersStage, rawStage], []⟩

theorem parsers_unseen : intake.validate = .ok () ∧ parserStage ∈ intake.stages ∧
    parsersStage ∈ intake.stages ∧ parserStage ≠ parsersStage ∧ Unseen parsersStage parserStage := by
  have valid : intake.validate = .ok () := by decide
  have mem : parserStage ∈ intake.stages := by decide
  have mem' : parsersStage ∈ intake.stages := by decide
  have apart : parserStage ≠ parsersStage := by decide
  exact ⟨valid, mem, mem', apart, (unseen_iff valid mem mem' apart).mpr ⟨by decide, by decide⟩⟩

def rawBatch : Args := SortedMap.empty.insert "flowlet.parser.raw.batch" "50"

/-- What is meant for the raw stage is an argument of the parser, too. -/
theorem raw_seen : intake.validate = .ok () ∧ parserStage ∈ intake.stages ∧
    rawStage ∈ intake.stages ∧ parserStage ≠ rawStage ∧
    DifferIn rawStage.name rawBatch .empty ∧
    (resolve parserStage.name parserStage.args rawBatch).entries = [("raw.batch", "50")] ∧
    (resolve parserStage.name parserStage.args .empty).entries = [] := by
  refine ⟨by decide, by decide, by decide, by decide, ?_, by decide, rfl⟩
  intro key apart
  exact SortedMap.get?_insert_ne _ (apart "batch" (by decide)) _

end Args
end FlowRuntime
