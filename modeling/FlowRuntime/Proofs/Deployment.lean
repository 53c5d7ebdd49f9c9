import FlowRuntime.Deployment
import FlowRuntime.Proofs.Run.Configuration

/-!
What an accepted text promises of the programs that it declares. All of its flows are valid, so
their stages are found by name; flows are looked up first match first, and nothing keeps two
flows from having one name. We verify which flows are found and which are not, and which programs
can be run: those of type flow for which stages are given, and they start just these stages.
-/
namespace FlowRuntime
open Operation

/-! ## Flows and their names -/

namespace ApplicationSpec
variable {a : ApplicationSpec} {f g : FlowSpec} {name : String}

def IsFirst (a : ApplicationSpec) (f : FlowSpec) : Prop :=
  ∃ before after, a.flows = before ++ f :: after ∧ ∀ g ∈ before, g.name ≠ f.name

theorem IsFirst.mem (first : a.IsFirst f) : f ∈ a.flows := by
  obtain ⟨before, after, split, _⟩ := first
  simp [split]

theorem flow?_eq_some_iff : a.flow? name = some f ↔ f.name = name ∧ a.IsFirst f := by
  rw [flow?, List.find?_eq_some_iff_append]
  constructor
  · rintro ⟨named, before, after, split, others⟩
    obtain rfl : f.name = name := by simpa using named
    exact ⟨rfl, before, after, split, by simpa using others⟩
  · rintro ⟨rfl, before, after, split, others⟩
    exact ⟨by simp, before, after, split, by simpa using others⟩

theorem isFirst_iff : a.IsFirst f ↔ a.flow? f.name = some f := by
  simp [flow?_eq_some_iff]

theorem exists_first (mem : f ∈ a.flows) : ∃ first, first.name = f.name ∧ a.IsFirst first := by
  cases found : a.flow? f.name with
  | none =>
    rw [flow?, List.find?_eq_none] at found
    exact absurd (found f mem) (by simp)
  | some first => exact ⟨first, flow?_eq_some_iff.mp found⟩

theorem IsFirst.unique (first : a.IsFirst f) (other : a.IsFirst g) (same : f.name = g.name) :
    f = g := by
  rw [isFirst_iff] at first other
  rw [same, other] at first
  exact (Option.some.inj first).symm

theorem forall_isFirst_iff :
    (∀ f ∈ a.flows, a.IsFirst f) ↔ ∀ f ∈ a.flows, ∀ g ∈ a.flows, f.name = g.name → f = g := by
  constructor
  · intro firsts f mem g mem' same
    exact (firsts f mem).unique (firsts g mem') same
  · intro alike f mem
    obtain ⟨first, named, here⟩ := exists_first mem
    rwa [← alike first here.mem f mem named]

end ApplicationSpec

namespace Deployment
variable {text : String} {d : Deployment} {a : ApplicationSpec} {f : FlowSpec} {id : ProgramId}
  {program : Program} {stages : List StageSpec}

theorem validateAll_ok_iff {flows : List FlowSpec} :
    validateAll flows = .ok () ↔ ∀ f ∈ flows, f.validate = .ok () := by
  induction flows with
  | nil => simp [validateAll]
  | cons f rest ih =>
    rw [validateAll, List.forall_mem_cons, ← ih]
    split
    · rename_i fault faulty
      simp [faulty]
    · rename_i valid
      simp [valid]

theorem ofSpec_ok_iff :
    ofSpec a = .ok d ↔ d = ⟨a⟩ ∧ ∀ f ∈ a.flows, f.validate = .ok () := by
  rw [← validateAll_ok_iff, ofSpec]
  split
  · rename_i failed
    simp [failed]
  · rename_i passed
    simp [passed, eq_comm]

theorem ofYaml_ok_iff :
    ofYaml text = .ok d ↔ ApplicationSpec.ofYaml? text = some d.application ∧
      ∀ f ∈ d.application.flows, f.validate = .ok () := by
  unfold ofYaml
  split
  · rename_i unread
    simp [unread]
  · rename_i a read
    rw [ofSpec_ok_iff, read]
    constructor
    · rintro ⟨rfl, valid⟩
      exact ⟨rfl, valid⟩
    · rintro ⟨same, valid⟩
      cases same
      exact ⟨rfl, valid⟩

theorem load_ok_iff : d.load id = .ok program ↔
    (id.namespaceName = d.application.namespaceName ∧ id.application = d.application.name) ∧
      program = ⟨id, d.application⟩ := by
  unfold load
  split
  · rename_i deployed
    simp [deployed, eq_comm]
  · rename_i foreign
    simp [foreign]

theorem stages_ok_iff : d.stages id = .ok stages ↔
    ∃ program, d.load id = .ok program ∧ program.stages? = some stages := by
  unfold Deployment.stages
  cases d.load id with
  | error e => simp
  | ok program =>
    simp only [Except.ok.injEq, exists_eq_left']
    cases program.stages? <;> simp

theorem stages_ok_iff_flow : d.stages id = .ok stages ↔
    (id.namespaceName = d.application.namespaceName ∧ id.application = d.application.name) ∧
      ∃ flow, d.application.flow? id.name = some flow ∧ flow.stages = stages := by
  simp only [stages_ok_iff, load_ok_iff, and_assoc, exists_and_left, exists_eq_left,
    Program.stages?, Option.map_eq_some_iff]

def idOf (d : Deployment) (f : FlowSpec) : ProgramId :=
  .flow d.application.namespaceName d.application.name f.name

/-- A flow is found by its name, and its program has its stages. -/
structure Finds (d : Deployment) (f : FlowSpec) : Prop where
  flow : d.application.flow? f.name = some f
  stages : ∃ program, d.load (d.idOf f) = .ok program ∧ program.stages? = some f.stages

theorem finds_of_isFirst (first : d.application.IsFirst f) : d.Finds f where
  flow := ApplicationSpec.isFirst_iff.mp first
  stages := by
    refine ⟨⟨d.idOf f, d.application⟩, load_ok_iff.mpr ⟨⟨rfl, rfl⟩, rfl⟩, ?_⟩
    simp [Program.stages?, idOf, ProgramId.flow, ApplicationSpec.isFirst_iff.mp first]

theorem finds_iff : d.Finds f ↔ d.application.IsFirst f := by
  constructor
  · intro finds
    exact ApplicationSpec.isFirst_iff.mpr finds.flow
  · exact finds_of_isFirst

/-- What is found in an accepted application: every stage of every flow, and of the flows of one name
the first. -/
structure Indexed (d : Deployment) : Prop where
  valid : ∀ f ∈ d.application.flows, f.validate = .ok ()
  stages : ∀ f ∈ d.application.flows, ∀ s ∈ f.stages, f.stage? s.name = some s
  found : ∀ f ∈ d.application.flows, d.Finds f ↔ d.application.IsFirst f
  instead : ∀ f ∈ d.application.flows, ∃ first, first.name = f.name ∧ d.application.IsFirst first ∧
    d.application.flow? f.name = some first ∧ d.stages (d.idOf f) = .ok first.stages
  all : (∀ f ∈ d.application.flows, d.Finds f) ↔
    ∀ f ∈ d.application.flows, ∀ g ∈ d.application.flows, f.name = g.name → f = g
  distinct : (d.application.flows.map (·.name)).Nodup → ∀ f ∈ d.application.flows, d.Finds f

/-- Every flow of an accepted text is found by its name, but for those of the name of an earlier one. -/
theorem indexed_of_ofYaml (read : ofYaml text = .ok d) : d.Indexed := by
  obtain ⟨_, valid⟩ := ofYaml_ok_iff.mp read
  have all : (∀ f ∈ d.application.flows, d.Finds f) ↔
      ∀ f ∈ d.application.flows, ∀ g ∈ d.application.flows, f.name = g.name → f = g := by
    simp only [finds_iff]
    exact ApplicationSpec.forall_isFirst_iff
  exact {
    valid := valid
    stages := by
      intro f mem s declared
      exact (FlowSpec.accepted_of_validate (valid f mem)).stage?_name declared
    found := fun f _ => finds_iff
    instead := by
      intro f mem
      obtain ⟨first, named, here⟩ := ApplicationSpec.exists_first mem
      have found : d.application.flow? f.name = some first :=
        named ▸ ApplicationSpec.isFirst_iff.mp here
      exact ⟨first, named, here, found, stages_ok_iff_flow.mpr ⟨⟨rfl, rfl⟩, first, found, rfl⟩⟩
    all := all
    distinct := by
      intro nodup
      apply all.mpr
      intro f mem g mem' same
      exact List.inj_on_of_nodup_map nodup mem mem' same }

end Deployment

/-! An application that declares two flows of one name. -/

def twinText : String :=
  "name: app\nflows:\n- name: flow\n  stages:\n  - name: stage\n- name: flow\n  stages:\n  - name: other\n"

def twinFlow (stage : String) : FlowSpec := ⟨"flow", [⟨stage, 1, .empty⟩], []⟩

def twins : Deployment := ⟨⟨"default", "app", [twinFlow "stage", twinFlow "other"]⟩⟩

theorem twins_read : Deployment.ofYaml twinText = .ok twins := by
  rw [Deployment.ofYaml_ok_iff]
  constructor
  · decide +kernel
  · decide

theorem twins_indexed : Deployment.ofYaml twinText = .ok twins ∧ twins.Indexed :=
  ⟨twins_read, Deployment.indexed_of_ofYaml twins_read⟩

/-- The second flow is accepted, though it has the name of the first, and is not found by it. -/
theorem twins_shadowed :
    Deployment.ofYaml twinText = .ok twins ∧ twinFlow "other" ∈ twins.application.flows ∧
      ¬ (twins.application.flows.map (·.name)).Nodup ∧
      twins.application.flow? (twinFlow "other").name = some (twinFlow "stage") ∧
      ¬ twins.Finds (twinFlow "other") := by
  refine ⟨twins_read, by decide, by decide, by decide, ?_⟩
  intro finds
  have found := finds.flow
  revert found
  decide

/-! ## Programs that can be run -/

namespace Deployment
variable {text : String} {d : Deployment} {id : ProgramId} {options : RunOptions} {c : RunContext}

/-- The program is loaded, and a run of it comes to bind its queues. -/
structure Runs (d : Deployment) (id : ProgramId) (options : RunOptions) (c : RunContext) : Prop where
  made : ∃ program, d.load id = .ok program ∧ RunContext.ofProgram program options = .ok c
  binding : Awaits start (.starting c) [] (.starting c) (.bind c.consumerGroups)

theorem awaits_start_bind (c : RunContext) :
    Awaits start (.starting c) [] (.starting c) (.bind c.consumerGroups) := ⟨_, .here _⟩

theorem runs_iff : d.Runs id options c ↔
    ∃ program, d.load id = .ok program ∧ RunContext.ofProgram program options = .ok c := by
  constructor
  · intro runs
    exact runs.made
  · intro made
    exact ⟨made, awaits_start_bind c⟩

theorem runs_iff_flow (valid : ∀ f ∈ d.application.flows, f.validate = .ok ()) :
    d.Runs id options c ↔
      (id.namespaceName = d.application.namespaceName ∧ id.application = d.application.name) ∧
        id.programType = .flow ∧ ∃ flow, d.application.flow? id.name = some flow ∧
          c = .ofFlow ⟨id, d.application⟩ options flow := by
  simp only [runs_iff, load_ok_iff, RunContext.ofProgram_ok_iff, and_assoc, exists_and_left,
    exists_eq_left]
  constructor
  · rintro ⟨place, application, flow, startable, rfl⟩
    exact ⟨place, application, startable.isFlow, flow, startable.declared, rfl⟩
  · rintro ⟨place, application, isFlow, flow, declared, rfl⟩
    exact ⟨place, application, flow,
      ⟨isFlow, declared, valid flow (List.mem_of_find?_eq_some declared)⟩, rfl⟩

/-- How what is said of a program's stages goes with a run of it. -/
structure Agrees (d : Deployment) (id : ProgramId) (options : RunOptions) : Prop where
  runs_iff : (∃ c, d.Runs id options c) ↔
    (∃ stages, d.stages id = .ok stages) ∧ id.programType = .flow
  starts : ∀ c stages, d.Runs id options c → d.stages id = .ok stages →
    c.flow.stages = stages ∧ ∀ log run x, Returns start (.starting c) log run x →
      startsOf log <+: c.starts ∧ (x = .ok () → startsOf log = c.starts)
  startable : ∀ c, d.Runs id options c → ∃ log run, Returns start (.starting c) log run (.ok ())
  others : id.programType ≠ .flow → ∀ program, d.load id = .ok program →
    RunContext.ofProgram program options = .error (.notAFlow id)
  typeless : ∀ stages, d.stages id = .ok stages ↔
    d.stages { id with programType := .flow } = .ok stages

/-- Of an accepted application, the programs of type flow for which stages are given can be run, and
no others. -/
theorem agrees_of_ofYaml (read : ofYaml text = .ok d) (id : ProgramId) (options : RunOptions) :
    d.Agrees id options := by
  obtain ⟨_, valid⟩ := ofYaml_ok_iff.mp read
  exact {
    runs_iff := by
      simp only [runs_iff_flow valid, stages_ok_iff_flow]
      constructor
      · rintro ⟨c, place, isFlow, flow, declared, _⟩
        exact ⟨⟨flow.stages, place, flow, declared, rfl⟩, isFlow⟩
      · rintro ⟨⟨_, place, flow, declared, _⟩, isFlow⟩
        exact ⟨_, place, isFlow, flow, declared, rfl⟩
    starts := by
      intro c stages runs given
      obtain ⟨_, _, flow, declared, rfl⟩ := (runs_iff_flow valid).mp runs
      obtain ⟨_, flow', declared', rfl⟩ := stages_ok_iff_flow.mp given
      rw [declared] at declared'
      cases declared'
      exact ⟨rfl, fun log run x returned => startsOf_start returned⟩
    startable := fun c _ => exists_started c
    others := by
      intro other program loaded
      obtain ⟨_, rfl⟩ := load_ok_iff.mp loaded
      simp [RunContext.ofProgram, other]
    typeless := by
      intro stages
      simp only [stages_ok_iff_flow] }

end Deployment

/-! The programs of the name of a flow, of which only one is a flow. -/

def twinId (programType : ProgramType) : ProgramId := ⟨"default", "app", programType, "flow"⟩

theorem twins_agree :
    Deployment.ofYaml twinText = .ok twins ∧ twins.Agrees (twinId .flow) loneOptions :=
  ⟨twins_read, Deployment.agrees_of_ofYaml twins_read (twinId .flow) loneOptions⟩

/-- Stages are given for a worker of the name of a flow, which cannot be run. -/
theorem twins_advertise_worker :
    Deployment.ofYaml twinText = .ok twins ∧
      twins.stages (twinId .worker) = .ok (twinFlow "stage").stages ∧
      twins.load (twinId .worker) = .ok ⟨twinId .worker, twins.application⟩ ∧
      RunContext.ofProgram ⟨twinId .worker, twins.application⟩ loneOptions =
        .error (.notAFlow (twinId .worker)) ∧
      ∀ c, ¬ twins.Runs (twinId .worker) loneOptions c := by
  refine ⟨twins_read, by decide, by decide, rfl, ?_⟩
  rintro c ⟨⟨program, loaded, made⟩, _⟩
  obtain ⟨_, rfl⟩ := Deployment.load_ok_iff.mp loaded
  cases made

end FlowRuntime
