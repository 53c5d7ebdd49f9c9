import FlowRuntime.Proofs.Program.Validity
import Mathlib.Data.Finset.Card
import Mathlib.Data.Finset.Image

/-!
What queues are named for. A queue holds what comes from one stream or from one output of a stage,
and has a name made of theirs. Streams are told apart by their queues' names, also from outputs. The
name of an output's queue joins the stage's and the output's name by a slash, but these may have
slashes in them. We verify that two outputs share a queue exactly if the one stage's name is the
other's and more, behind a slash, and the other's output begins with what it has more; so where no
stage's name goes on from another's in this way, a stage has as many queues as there are sources
that feed it.
-/
namespace FlowRuntime

namespace QueueName
variable {program : ProgramId}

theorem ofStream_eq_iff {name name' : String} : ofStream name = ofStream name' ↔ name = name' := by
  unfold ofStream
  rw [← String.toList_inj, ← String.toList_inj]
  simp

theorem ofStream_ne_ofStage (name stage output : String) :
    ofStream name ≠ ofStage program stage output := by
  unfold ofStream ofStage
  rw [ne_eq, ← String.toList_inj]
  simp

theorem ofStage_eq_iff {s s' o o' : String} :
    ofStage program s o = ofStage program s' o' ↔
      s.toList ++ '/' :: o.toList = s'.toList ++ '/' :: o'.toList := by
  unfold ofStage
  rw [← String.toList_inj]
  simp

end QueueName

namespace Text

/-- What is joined by a separator can be joined in two ways only around another separator. -/
theorem append_cons_eq_iff {sep : Char} {a b x y : List Char} :
    a ++ sep :: x = b ++ sep :: y ↔ (a = b ∧ x = y) ∨
      (∃ more, b = a ++ sep :: more ∧ x = more ++ sep :: y) ∨
      ∃ more, a = b ++ sep :: more ∧ y = more ++ sep :: x := by
  constructor
  · intro same
    rcases List.append_eq_append_iff.mp same with ⟨part, rfl, rest⟩ | ⟨part, rfl, rest⟩
    · cases part with
      | nil => exact .inl ⟨by simp, (List.cons.inj rest).2⟩
      | cons first more =>
        obtain ⟨rfl, rfl⟩ := List.cons.inj rest
        exact .inr (.inl ⟨more, rfl, rfl⟩)
    · cases part with
      | nil => exact .inl ⟨by simp, (List.cons.inj rest).2.symm⟩
      | cons first more =>
        obtain ⟨rfl, rfl⟩ := List.cons.inj rest
        exact .inr (.inr ⟨more, rfl, rfl⟩)
  · rintro (⟨rfl, rfl⟩ | ⟨more, rfl, rfl⟩ | ⟨more, rfl, rfl⟩) <;> simp

end Text

/-- What feeds a stage. -/
inductive Origin where
  | stream (name : String)
  | output (stage output : String)
  deriving DecidableEq

/-- Which output a connection gives is of no meaning if it reads from a stream. -/
def FlowConnection.origin (c : FlowConnection) : Origin :=
  match c.source with
  | .stream name => .stream name
  | .stage name => .output name c.output

def FlowSpec.origins (f : FlowSpec) (stage : String) : Finset Origin :=
  ((f.connections.filter (·.target = stage)).map (·.origin)).toFinset

namespace Origin
variable {program : ProgramId} {a b : Origin}

def queue (program : ProgramId) : Origin → QueueName
  | stream name => .ofStream name
  | output stage name => .ofStage program stage name

theorem queue_origin (program : ProgramId) (c : FlowConnection) :
    c.origin.queue program = .ofConnection program c := by
  unfold FlowConnection.origin QueueName.ofConnection
  cases c.source <;> rfl

/-- Between the name of the stage and that of the output, the slash can be taken for another one. -/
def Slides : Origin → Origin → Prop
  | output s o, output s' o' => ∃ more, s' = s ++ "/" ++ more ∧ o = more ++ "/" ++ o'
  | _, _ => False

theorem not_slides_self (a : Origin) : ¬ a.Slides a := by
  cases a with
  | stream name => exact id
  | output s o =>
    rintro ⟨more, longer, _⟩
    have lengths := congrArg String.length longer
    simp only [String.length_append] at lengths
    have slash : "/".length = 1 := rfl
    omega

theorem slides_iff {s s' o o' : String} :
    (output s o).Slides (output s' o') ↔ ∃ more, s'.toList = s.toList ++ '/' :: more ∧
      o.toList = more ++ '/' :: o'.toList := by
  constructor
  · rintro ⟨more, rfl, rfl⟩
    exact ⟨more.toList, by simp, by simp⟩
  · rintro ⟨more, longer, rest⟩
    refine ⟨String.ofList more, ?_, ?_⟩
    · rw [← String.toList_inj, longer]
      simp
    · rw [← String.toList_inj, rest]
      simp

theorem queue_eq_iff : a.queue program = b.queue program ↔ a = b ∨ a.Slides b ∨ b.Slides a := by
  cases a with
  | stream name =>
    cases b with
    | stream name' => simp [queue, QueueName.ofStream_eq_iff, Slides]
    | output s o => simp [queue, QueueName.ofStream_ne_ofStage, Slides]
  | output s o =>
    cases b with
    | stream name => simp [queue, (QueueName.ofStream_ne_ofStage _ _ _).symm, Slides]
    | output s' o' =>
      rw [queue, queue, QueueName.ofStage_eq_iff, Text.append_cons_eq_iff, slides_iff, slides_iff,
        String.toList_inj, String.toList_inj, output.injEq]

end Origin

section
variable {program : ProgramId} {f : FlowSpec} {stage : String}

theorem FlowSpec.mem_origins {a : Origin} :
    a ∈ f.origins stage ↔ ∃ c ∈ f.connections, c.target = stage ∧ c.origin = a := by
  simp [FlowSpec.origins, and_assoc]

theorem Binding.length_queues :
    ((ofFlow program f).queues stage).length = ((f.origins stage).image (·.queue program)).card := by
  have nodup := SortedMap.ascending_nodup ((ofFlow program f).queues_ascending stage)
  rw [← List.toFinset_card_of_nodup nodup]
  congr 1
  ext queue
  simp only [List.mem_toFinset, mem_queues_ofFlow, Finset.mem_image, FlowSpec.mem_origins]
  constructor
  · rintro ⟨c, mem, here, rfl⟩
    exact ⟨c.origin, ⟨c, mem, here, rfl⟩, Origin.queue_origin program c⟩
  · rintro ⟨_, ⟨c, mem, here, rfl⟩, rfl⟩
    exact ⟨c, mem, here, (Origin.queue_origin program c).symm⟩

theorem length_queues_eq_iff :
    ((Binding.ofFlow program f).queues stage).length = (f.origins stage).card ↔
      ∀ a ∈ f.origins stage, ∀ b ∈ f.origins stage, ¬ a.Slides b := by
  rw [Binding.length_queues, Finset.card_image_iff]
  constructor
  · intro apart a mem b mem' slides
    have same : a = b := apart mem mem' (Origin.queue_eq_iff.mpr (.inr (.inl slides)))
    exact a.not_slides_self (same ▸ slides)
  · intro fixed a mem b mem' same
    rcases Origin.queue_eq_iff.mp same with equal | slides | slides
    · exact equal
    · exact absurd slides (fixed a mem b mem')
    · exact absurd slides (fixed b mem' a mem)

theorem FlowSpec.WellFormed.not_slides (formed : f.WellFormed)
    (plain : ∀ s ∈ f.stageNames, ∀ s' ∈ f.stageNames, ∀ more, s' ≠ s ++ "/" ++ more)
    {c c' : FlowConnection} (mem : c ∈ f.connections) (mem' : c' ∈ f.connections) :
    ¬ c.origin.Slides c'.origin := by
  unfold FlowConnection.origin
  cases reads : c.source with
  | stream name => exact id
  | stage s =>
    cases reads' : c'.source with
    | stream name => exact id
    | stage s' =>
      rintro ⟨more, longer, _⟩
      exact plain s ((formed.linked c mem).source s reads) s' ((formed.linked c' mem').source s' reads')
        more longer

/-- Different sources of an accepted flow have different queues unless a slash can be taken for
another one. -/
theorem origins_apart (program : ProgramId) (valid : f.validate = .ok ()) :
    (∀ c ∈ f.connections, ∀ c' ∈ f.connections, c.origin ≠ c'.origin →
      (QueueName.ofConnection program c = .ofConnection program c' ↔
        c.origin.Slides c'.origin ∨ c'.origin.Slides c.origin)) ∧
    (∀ stage, ((Binding.ofFlow program f).queues stage).length = (f.origins stage).card ↔
      ∀ a ∈ f.origins stage, ∀ b ∈ f.origins stage, ¬ a.Slides b) ∧
    ((∀ s ∈ f.stageNames, ∀ s' ∈ f.stageNames, ∀ more, s' ≠ s ++ "/" ++ more) →
      (∀ c ∈ f.connections, ∀ c' ∈ f.connections, c.origin ≠ c'.origin →
        QueueName.ofConnection program c ≠ .ofConnection program c') ∧
      ∀ stage, ((Binding.ofFlow program f).queues stage).length = (f.origins stage).card) := by
  have formed := FlowSpec.validate_ok_iff.mp valid
  have shared {c c' : FlowConnection} (apart : c.origin ≠ c'.origin) :
      QueueName.ofConnection program c = .ofConnection program c' ↔
        c.origin.Slides c'.origin ∨ c'.origin.Slides c.origin := by
    rw [← Origin.queue_origin, ← Origin.queue_origin, Origin.queue_eq_iff, or_iff_right apart]
  refine ⟨fun c _ c' _ => shared, fun stage => length_queues_eq_iff, fun plain => ⟨?_, ?_⟩⟩
  · intro c mem c' mem' apart same
    rcases (shared apart).mp same with slides | slides
    · exact formed.not_slides plain mem mem' slides
    · exact formed.not_slides plain mem' mem slides
  · intro stage
    apply length_queues_eq_iff.mpr
    intro a mem b mem'
    obtain ⟨c, within, _, rfl⟩ := FlowSpec.mem_origins.mp mem
    obtain ⟨c', within', _, rfl⟩ := FlowSpec.mem_origins.mp mem'
    exact formed.not_slides plain within within'

/-! A sink is fed by outputs with a slash in their names, first by stages that have none. -/

def sinkStage : StageSpec := ⟨"sink", 1, .empty⟩

def fannedFlow : FlowSpec :=
  ⟨"purchase-flow", [⟨"a", 1, .empty⟩, ⟨"b", 1, .empty⟩, sinkStage],
    [⟨.stage "a", "sink", "b/c"⟩, ⟨.stage "b", "sink", "c"⟩, ⟨.stream "a/b/c", "sink", "out"⟩]⟩

def purchasesId : ProgramId := .flow "default" "purchases" "purchase-flow"

theorem fanned_apart : fannedFlow.validate = .ok () ∧
    ((Binding.ofFlow purchasesId fannedFlow).queues "sink").length = 3 ∧
    ∀ a ∈ fannedFlow.origins "sink", ∀ b ∈ fannedFlow.origins "sink", ¬ a.Slides b := by
  have valid : fannedFlow.validate = .ok () := by decide
  have sources : (fannedFlow.origins "sink").card = 3 := by decide +kernel
  have queues : ((Binding.ofFlow purchasesId fannedFlow).queues "sink").length = 3 := by
    decide +kernel
  exact ⟨valid, queues, ((origins_apart purchasesId valid).2.1 "sink").mp (queues.trans sources.symm)⟩

def slashedFlow : FlowSpec :=
  ⟨"purchase-flow", [⟨"a", 1, .empty⟩, ⟨"a/b", 1, .empty⟩, sinkStage],
    [⟨.stage "a", "sink", "b/c"⟩, ⟨.stage "a/b", "sink", "c"⟩]⟩

/-- Output `b/c` of stage `a` and output `c` of stage `a/b` are one queue. -/
theorem slashed_merged : slashedFlow.validate = .ok () ∧
    (∃ c ∈ slashedFlow.connections, ∃ c' ∈ slashedFlow.connections, c.origin ≠ c'.origin ∧
      QueueName.ofConnection purchasesId c = .ofConnection purchasesId c') ∧
    (Binding.ofFlow purchasesId slashedFlow).queues "sink" =
      ["queue:///purchases/purchase-flow/a/b/c"] ∧
    (slashedFlow.origins "sink").card = 2 := by
  refine ⟨by decide, ?_, by decide +kernel, by decide +kernel⟩
  exact ⟨⟨.stage "a", "sink", "b/c"⟩, by decide, ⟨.stage "a/b", "sink", "c"⟩, by decide, by decide,
    by decide +kernel⟩

end
end FlowRuntime
