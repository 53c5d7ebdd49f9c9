import FlowRuntime.Instance.Local
import FlowRuntime.Queue.Partitioner
import FlowRuntime.Rehearsal.Fault
import FlowRuntime.Run.Activity

/-!
What surrounds a run in a rehearsal: local instances with what they have not read
yet, a partitioner in memory, and the faults that stand between these and the run.
Every call is logged before a fault can strike it.
-/
namespace FlowRuntime.Rehearsal

inductive LoggedCall where
  | bind (groups : List ConsumerGroup)
  | repartition (group : ConsumerGroup)
  | start (options : InstanceOptions)
  | request (op : InstanceOp) (key : StageKey)
  deriving DecidableEq

def LoggedCall.site : LoggedCall → Site
  | .bind _ => ⟨.bind, "", 0⟩
  | .repartition g => ⟨.repartition, g.stage, 0⟩
  | .start o => ⟨.start, o.key.stage, o.key.instanceId⟩
  | .request .suspend k => ⟨.suspend, k.stage, k.instanceId⟩
  | .request .resume k => ⟨.resume, k.stage, k.instanceId⟩
  | .request .stop k => ⟨.stop, k.stage, k.instanceId⟩
  | .request (.command _) k => ⟨.command, k.stage, k.instanceId⟩

/-- A request on its way: the fan-out that it is part of, and its place there. -/
structure Letter where
  round : Nat
  place : Nat
  op : InstanceOp
  deriving DecidableEq, Inhabited

/-- An instance and its mail. It is called on to read it, if it is not already. -/
structure Resident where
  self : LocalInstance
  mail : List Letter
  isCalled : Bool
  mustStop : Bool
  deriving DecidableEq, Inhabited

/-- Calls are logged newest first. An instance's handle is its place in the order of starts. -/
structure World where
  faults : List Fault
  residents : Array Resident
  partitioner : Partitioner
  calls : List LoggedCall

namespace World

def empty (faults : List Fault) : World := ⟨faults, #[], .empty, []⟩

def meet (w : World) (call : LoggedCall) : World × Fate :=
  let (faults, fate) := Fault.meet call.site w.faults
  ({ w with faults := faults, calls := call :: w.calls }, fate)

def bind (w : World) (groups : List ConsumerGroup) : World × Outcome :=
  let (partitioner, outcome) := w.partitioner.bind groups
  ({ w with partitioner := partitioner }, outcome)

def repartition (w : World) (group : ConsumerGroup) : World × Outcome :=
  let (partitioner, outcome) := w.partitioner.repartition group
  ({ w with partitioner := partitioner }, outcome)

/-- A new instance is called on at once, though there is nothing for it to read. -/
def start (w : World) (options : InstanceOptions) : World × Except Failure Handle :=
  match LocalInstance.start options with
  | .error e => (w, .error e)
  | .ok i => ({ w with residents := w.residents.push ⟨i, [], true, false⟩ }, .ok w.residents.size)

/-- The answer that a request has at once: an instance that has stopped reads no more mail. -/
def refusal? (w : World) (handle : Handle) (op : InstanceOp) : Option Outcome :=
  match w.residents[handle]? with
  | none => some (.error .instanceGone)
  | some r => if r.self.state = .stopped then some (LocalInstance.refuse r.self.key op) else none

def isCalled (w : World) (handle : Handle) : Bool := w.residents[handle]?.any (·.isCalled)

def post (w : World) (handle : Handle) (l : Letter) : World :=
  { w with residents := w.residents.modify handle fun r =>
      { r with mail := r.mail ++ [l], isCalled := true } }

def read (w : World) (handle : Handle) : World × List (Letter × Outcome) :=
  match w.residents[handle]? with
  | none => (w, [])
  | some r =>
    let (i, answers) := r.self.handleQueue (r.mail.map (·.op))
    let r' : Resident := ⟨if r.mustStop then i.shutDown else i, [], false, r.mustStop⟩
    ({ w with residents := w.residents.setIfInBounds handle r' }, r.mail.zip answers)

def shutDown (w : World) : World :=
  { w with residents := w.residents.map fun r => { r with isCalled := true, mustStop := true } }

/-- Of each key, the state of the instance started last. -/
def states (w : World) : SortedMap StageKey InstanceState :=
  w.residents.foldl (fun m r => m.insert r.self.key r.self.state) .empty

end World
end FlowRuntime.Rehearsal
