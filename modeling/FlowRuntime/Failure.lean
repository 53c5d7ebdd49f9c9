import FlowRuntime.Instance.Lifecycle
import FlowRuntime.Program.Spec
import FlowRuntime.Run.State

/-!
Why something failed. A failure is a cause, possibly within contexts that say
what was being done. `message` is its outermost line; `chain` joins the lines of
all contexts and of the cause. A failed start and a failed rescale repeat only
the outermost line of what made them fail.
-/
namespace FlowRuntime

def durationText (ms : Nat) : String :=
  if ms = 0 then "0ns"
  else if ms < 1000 then toString ms ++ "ms"
  else
    let whole := toString (ms / 1000)
    let rest := ms % 1000
    if rest = 0 then whole ++ "s"
    else
      let digits := if rest < 10 then "00" ++ toString rest
        else if rest < 100 then "0" ++ toString rest else toString rest
      let trimmed := (digits.toList.reverse.dropWhile (· = '0')).reverse
      whole ++ "." ++ String.ofList trimmed ++ "s"

inductive SettingFault where
  | missing (field : String)
  | repeated (field : String)
  | emptyNumber (name value : String)
  | notANumber (name value : String)
  | numberTooLarge (name value : String)
  deriving DecidableEq

def SettingFault.message : SettingFault → String
  | .missing f => "missing value for field " ++ f
  | .repeated f => "duplicate field `" ++ f ++ "`"
  | .emptyNumber n v => numeric "cannot parse integer from empty string" n v
  | .notANumber n v => numeric "invalid digit found in string" n v
  | .numberTooLarge n v => numeric "number too large to fit in target type" n v
where
  numeric (reason name value : String) : String :=
    reason ++ " while parsing value '" ++ value ++ "' provided by " ++ name

inductive Context where
  | bindingQueues (run : ProgramRunId)
  | startingInstance (key : StageKey)
  | repartitioning (stage : String) (partitions : Nat)
  | sending (op : InstanceOp) (key : StageKey)
  | attempts (name : String) (made : Nat)
  | readingSpec (path : String)
  | loadingSpec (path : String)
  | loadingProgram
  | startingFlow
  | openingDatabase
  | readingSettings
  | note (text : String)
  deriving DecidableEq

def Context.text : Context → String
  | .bindingQueues r => "error binding queues of flow " ++ r.text
  | .startingInstance k => "error starting instance " ++ k.text
  | .repartitioning s n =>
    "error repartitioning stage '" ++ s ++ "' to " ++ toString n ++ " partitions"
  | .sending op k => "error sending " ++ op.text ++ " to " ++ k.text
  | .attempts name n => name ++ " failed after " ++ toString n ++ " attempts"
  | .readingSpec path => "error reading application spec file " ++ path
  | .loadingSpec path => "error loading application spec file " ++ path
  | .loadingProgram => "error loading flow program"
  | .startingFlow => "error starting flow"
  | .openingDatabase => "error opening database"
  | .readingSettings => "error building config from env"
  | .note t => t

inductive Failure where
  | notAFlow (program : ProgramId)
  | undeclaredFlow (flow application : String)
  | notDeployed (namespaceName application : String)
  | noDeclaredStages (program : ProgramId)
  | noInstances (stage : String)
  | unknownStage (stage : String)
  | wrongState (verb : RunVerb) (state : RunState)
  | startupFailed (reason : Failure)
  | rescaleFailed (stage : String) (instances : Nat) (reason : Failure)
  | invalidFlow (fault : SpecFault)
  | noPartitions (stage : String)
  | outsideStage (key : StageKey) (instances : Nat)
  | cannotOwn (key : StageKey) (instances : Nat)
  | cannotApply (op : InstanceOp) (key : StageKey) (state : InstanceState)
  | instanceGone
  | timedOut (ms : Nat)
  | noRecord (run : ProgramRunId)
  | unreadableRecord
  | blockedStore
  | unreadableSpec
  | noSpecFile
  | badSettings (fault : SettingFault)
  | reported (text : String)
  | within (context : Context) (reason : Failure)
  deriving DecidableEq

namespace Failure

def invalidInput (text : String) : String := "validation error: " ++ text

def message : Failure → String
  | .notAFlow p => invalidInput <| "program " ++ p.text ++ " is a " ++ p.programType.text
      ++ ", only flows may be run by a flow runner"
  | .undeclaredFlow f a => invalidInput <|
      "flow '" ++ f ++ "' is not declared by application '" ++ a ++ "'"
  | .notDeployed ns a => invalidInput <| "application " ++ ns ++ "." ++ a ++ " is not deployed"
  | .noDeclaredStages p => invalidInput <| "program " ++ p.text ++ " declares no stages"
  | .noInstances s => invalidInput <| "stage '" ++ s ++ "' requires at least 1 instance"
  | .unknownStage s => "unknown stage '" ++ s ++ "'"
  | .wrongState verb state => "can not " ++ verb.text ++ " a program which is " ++ state.text
  | .startupFailed reason => "error starting flow instances: " ++ reason.message
  | .rescaleFailed s n reason =>
    "error changing instances of stage '" ++ s ++ "' to " ++ toString n ++ ": " ++ reason.message
  | .invalidFlow fault => fault.message
  | .noPartitions s => "consumer group of stage '" ++ s ++ "' requires at least 1 partition"
  | .outsideStage k n =>
    "instance " ++ k.text ++ " is outside of the stage's instance count " ++ toString n
  | .cannotOwn k n =>
    "instance " ++ k.text ++ " can not own a partition of " ++ toString n ++ " instances"
  | .cannotApply op k state =>
    "can not apply " ++ op.text ++ " to instance " ++ k.text ++ " which is " ++ state.text
  | .instanceGone => "instance controller is no longer running"
  | .timedOut ms => "timed out after " ++ durationText ms
  | .noRecord r => "no run record found for " ++ r.text
  | .unreadableRecord => "error decoding run record from storage"
  | .blockedStore => "error creating dir for hadron flow database"
  | .unreadableSpec => "error decoding application spec"
  | .noSpecFile => "No such file or directory (os error 2)"
  | .badSettings fault => fault.message
  | .reported t => t
  | .within context _ => context.text

def chain : Failure → String
  | .within context reason => context.text ++ ": " ++ reason.chain
  | cause => cause.message

def cause : Failure → Failure
  | .within _ reason => reason.cause
  | cause => cause

/-- The failures that a caller can tell from others, whatever they are within. -/
inductive Kind where
  | invalidInput
  | unknownStage
  | invalidState
  | startupFailed
  | rescaleFailed
  deriving DecidableEq

def Kind.text : Kind → String
  | .invalidInput => "InvalidInput"
  | .unknownStage => "UnknownStage"
  | .invalidState => "InvalidState"
  | .startupFailed => "StartupFailed"
  | .rescaleFailed => "RescaleFailed"

def kind? (f : Failure) : Option Kind :=
  match f.cause with
  | .notAFlow _ | .undeclaredFlow .. | .notDeployed .. | .noDeclaredStages _ | .noInstances _ =>
    some .invalidInput
  | .unknownStage _ => some .unknownStage
  | .wrongState .. => some .invalidState
  | .startupFailed _ => some .startupFailed
  | .rescaleFailed .. => some .rescaleFailed
  | _ => none

end Failure
end FlowRuntime
