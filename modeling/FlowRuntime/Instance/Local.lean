import FlowRuntime.Failure
import FlowRuntime.Instance.Options

/-!
An instance in this process: a state, and the instance count it was last told.
It handles the requests in its queue one at a time; once it has stopped, what is
left in the queue is dropped, and later requests are refused at the door, except
that stopping it again is fine.
-/
namespace FlowRuntime

structure LocalInstance where
  key : StageKey
  state : InstanceState
  told : Nat
  deriving DecidableEq, Inhabited

namespace LocalInstance

abbrev Answer := Except Failure Unit

def start (options : InstanceOptions) : Except Failure LocalInstance :=
  if options.key.instanceId < options.instances then
    .ok ⟨options.key, .alive, options.instances⟩
  else .error (.outsideStage options.key options.instances)

def handle (i : LocalInstance) (op : InstanceOp) : LocalInstance × Answer :=
  match op, i.state with
  | .suspend, .alive => ({ i with state := .suspended }, .ok ())
  | .suspend, .suspended => (i, .ok ())
  | .resume, .suspended => ({ i with state := .alive }, .ok ())
  | .resume, .alive => (i, .ok ())
  | .stop, _ => ({ i with state := .stopped }, .ok ())
  | .command n, .alive | .command n, .suspended =>
    if i.key.instanceId < n then ({ i with told := n }, .ok ())
    else (i, .error (.cannotOwn i.key n))
  | op, state => (i, .error (.cannotApply op i.key state))

def handleQueue (i : LocalInstance) : List InstanceOp → LocalInstance × List Answer
  | [] => (i, [])
  | op :: rest =>
    if i.state = .stopped then (i, .error .instanceGone :: rest.map fun _ => .error .instanceGone)
    else
      let (i, answer) := i.handle op
      let (i, answers) := i.handleQueue rest
      (i, answer :: answers)

def refuse (key : StageKey) (op : InstanceOp) : Answer :=
  match op with
  | .stop => .ok ()
  | op => .error (.within (.sending op key) .instanceGone)

def queueCapacity : Nat := 100

/-- Handles requests issued together, in their order, if there is room for all of them. -/
def requests (i : LocalInstance) (ops : List InstanceOp) : LocalInstance × List Answer :=
  if i.state = .stopped then (i, ops.map (refuse i.key)) else i.handleQueue ops

def request (i : LocalInstance) (op : InstanceOp) : LocalInstance × Answer :=
  if i.state = .stopped then (i, refuse i.key op) else i.handle op

/-- A shutdown signal, or the loss of everyone who could send one. -/
def shutDown (i : LocalInstance) : LocalInstance := { i with state := .stopped }

end LocalInstance
end FlowRuntime
