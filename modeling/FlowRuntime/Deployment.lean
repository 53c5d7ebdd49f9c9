import FlowRuntime.Failure
import FlowRuntime.Yaml.Spec

/-!
The one application that a process serves, read from YAML text. All of its flows
are valid. Programs are looked up in it by namespace and application; whether the
program is one of its flows shows only when its stages are asked for.
-/
namespace FlowRuntime

structure Deployment where
  application : ApplicationSpec
  deriving DecidableEq

namespace Deployment

def validateAll : List FlowSpec → Except Failure Unit
  | [] => .ok ()
  | f :: rest =>
    match f.validate with
    | .error fault => .error (.invalidFlow fault)
    | .ok _ => validateAll rest

def ofSpec (a : ApplicationSpec) : Except Failure Deployment :=
  match validateAll a.flows with
  | .error e => .error e
  | .ok _ => .ok ⟨a⟩

def ofYaml (text : String) : Except Failure Deployment :=
  match ApplicationSpec.ofYaml? text with
  | none => .error .unreadableSpec
  | some a => ofSpec a

/-- Reads the file at a path, given its text, or nothing if there is no such file. -/
def ofFile (path : String) : (text : Option String) → Except Failure Deployment
  | none => .error (.within (.readingSpec path) .noSpecFile)
  | some text => (ofYaml text).mapError (.within (.loadingSpec path))

def load (d : Deployment) (id : ProgramId) : Except Failure Program :=
  if id.namespaceName = d.application.namespaceName ∧ id.application = d.application.name then
    .ok ⟨id, d.application⟩
  else .error (.notDeployed id.namespaceName id.application)

def stages (d : Deployment) (id : ProgramId) : Except Failure (List StageSpec) :=
  match d.load id with
  | .error e => .error e
  | .ok program =>
    match program.stages? with
    | none => .error (.noDeclaredStages id)
    | some stages => .ok stages

end Deployment
end FlowRuntime
