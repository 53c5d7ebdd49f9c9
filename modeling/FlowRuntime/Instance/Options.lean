import FlowRuntime.Program.Args

/-!
What an instance is started with. The system arguments of its run are kept but
for three reserved names, which always carry the instance's own values; the user
arguments are those its stage resolves to.
-/
namespace FlowRuntime

structure RunOptions where
  runId : RunId
  systemArgs : Args
  userArgs : Args
  deriving DecidableEq, Inhabited

def RunOptions.fresh (random : Fin 32 → Fin 16) (nowSecs : Int64) (userArgs : Args) : RunOptions :=
  ⟨⟨Uuid.ofRandom random, nowSecs⟩, .empty, userArgs⟩

structure InstanceOptions where
  program : ProgramId
  runId : RunId
  key : StageKey
  instances : Nat
  systemArgs : Args
  userArgs : Args
  deriving DecidableEq, Inhabited

namespace InstanceOptions

def runIdArg : String := "runId"
def instanceIdArg : String := "instanceId"
def instancesArg : String := "instances"

def create (program : ProgramId) (runId : RunId) (key : StageKey) (instances : Nat)
    (systemArgs userArgs : Args) : InstanceOptions where
  program := program
  runId := runId
  key := key
  instances := instances
  systemArgs := ((systemArgs.insert runIdArg runId.text).insert instanceIdArg
    (toString key.instanceId)).insert instancesArg (toString instances)
  userArgs := userArgs

def forStage (program : ProgramId) (options : RunOptions) (stage : StageSpec)
    (instanceId instances : Nat) : InstanceOptions :=
  create program options.runId ⟨stage.name, instanceId⟩ instances options.systemArgs
    (Args.resolve stage.name stage.args options.userArgs)

end InstanceOptions
end FlowRuntime
