import FlowRuntime.Program.Identity
import FlowRuntime.SortedMap

/-!
What an application declares: flows, their stages, and the connections that feed
stages from streams and from other stages. Names are looked up first match
first. `FlowSpec.validate` accepts a flow when every later module can rely on
its shape; of several faults it reports the first in the order in which the flow
is written: no stages, then stage by stage, then connection by connection.
-/
namespace FlowRuntime

abbrev Args := SortedMap String String

structure StageSpec where
  name : String
  instances : UInt32
  args : Args
  deriving DecidableEq, Inhabited

inductive ConnectionSource where
  | stream (name : String)
  | stage (name : String)
  deriving DecidableEq, Inhabited

/-- The output matters only where the source is a stage. -/
structure FlowConnection where
  source : ConnectionSource
  target : String
  output : String
  deriving DecidableEq, Inhabited

structure FlowSpec where
  name : String
  stages : List StageSpec
  connections : List FlowConnection
  deriving DecidableEq, Inhabited

structure ApplicationSpec where
  namespaceName : String
  name : String
  flows : List FlowSpec
  deriving DecidableEq, Inhabited

/-- A program together with the application that is said to declare it. -/
structure Program where
  id : ProgramId
  application : ApplicationSpec
  deriving DecidableEq

def defaultNamespace : String := "default"
def defaultOutput : String := "out"
def defaultInstances : UInt32 := 1

inductive SpecFault where
  | noStages (flow : String)
  | unnamedStage (flow : String)
  | repeatedStage (flow stage : String)
  | idleStage (flow stage : String)
  | unknownTarget (flow stage : String)
  | unknownSource (flow stage : String)
  deriving DecidableEq

def SpecFault.message : SpecFault → String
  | .noStages f => "flow '" ++ f ++ "' declares no stages"
  | .unnamedStage f => "flow '" ++ f ++ "' declares a stage with an empty name"
  | .repeatedStage f s => "flow '" ++ f ++ "' declares stage '" ++ s ++ "' more than once"
  | .idleStage f s => "stage '" ++ s ++ "' of flow '" ++ f ++ "' must declare at least 1 instance"
  | .unknownTarget f s => "flow '" ++ f ++ "' connection targets unknown stage '" ++ s ++ "'"
  | .unknownSource f s => "flow '" ++ f ++ "' connection reads from unknown stage '" ++ s ++ "'"

namespace FlowSpec

def stage? (f : FlowSpec) (name : String) : Option StageSpec :=
  f.stages.find? (·.name = name)

def stageNames (f : FlowSpec) : List String := f.stages.map (·.name)

def checkStages (flow : String) (seen : List String) : List StageSpec → Except SpecFault Unit
  | [] => .ok ()
  | s :: rest =>
    if s.name = "" then .error (.unnamedStage flow)
    else if s.name ∈ seen then .error (.repeatedStage flow s.name)
    else if s.instances = 0 then .error (.idleStage flow s.name)
    else checkStages flow (s.name :: seen) rest

def checkConnections (flow : String) (names : List String) :
    List FlowConnection → Except SpecFault Unit
  | [] => .ok ()
  | c :: rest =>
    if c.target ∉ names then .error (.unknownTarget flow c.target)
    else match c.source with
      | .stream _ => checkConnections flow names rest
      | .stage s =>
        if s ∉ names then .error (.unknownSource flow s) else checkConnections flow names rest

def validate (f : FlowSpec) : Except SpecFault Unit :=
  if f.stages = [] then .error (.noStages f.name)
  else match checkStages f.name [] f.stages with
    | .error e => .error e
    | .ok _ => checkConnections f.name f.stageNames f.connections

end FlowSpec

def ApplicationSpec.flow? (a : ApplicationSpec) (name : String) : Option FlowSpec :=
  a.flows.find? (·.name = name)

/-- A program's stages are those of the flow of its name; its type is not asked for. -/
def Program.stages? (p : Program) : Option (List StageSpec) :=
  (p.application.flow? p.id.name).map (·.stages)

end FlowRuntime
