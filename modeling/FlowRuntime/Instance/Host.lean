import FlowRuntime.Instance.Crowd

/-!
The local instances of one process, in the order in which they were started. As long
as there are not too many of them, requests issued together are all in their
instances' queues before any of them is handled, so what an instance does depends only
on the order of its own requests; of more requests, some are held up. Closing the host
stops every instance, and none can be started afterwards.
-/
namespace FlowRuntime

structure Host where
  instances : List LocalInstance
  isOpen : Bool
  deriving DecidableEq, Inhabited

namespace Host

abbrev Answer := LocalInstance.Answer

def empty : Host := ⟨[], true⟩

def start (h : Host) (options : InstanceOptions) : Host × Except Failure StageKey :=
  match LocalInstance.start options with
  | .ok i => ({ h with instances := h.instances ++ [i] }, .ok i.key)
  | .error e => (h, .error e)

/-- Gives each request the next of its own instance's answers. -/
def deal : List Nat → List (List Answer) → List (Option Answer)
  | [], _ => []
  | i :: rest, answers => (answers[i]?.bind (·.head?)) :: deal rest (answers.modify i List.tail)

def fewTogether (h : Host) (requests : List (Nat × InstanceOp)) : Host × List (Option Answer) :=
  let own (i : Nat) : List InstanceOp := (requests.filter (·.1 = i)).map (·.2)
  let handled := h.instances.zipIdx.map fun e => e.1.requests (own e.2)
  ({ h with instances := handled.map (·.1) }, deal (requests.map (·.1)) (handled.map (·.2)))

def manyTogether (h : Host) (requests : List (Nat × InstanceOp)) (limit : Option Nat) :
    Host × List (Option Answer) :=
  let c := (Crowd.gather h.instances requests limit).play
  ({ h with instances := c.instances }, c.answers)

def isOf (h : Host) (request : Nat × InstanceOp) : Bool := request.1 < h.instances.length

/-- Issues the requests all at once. One to an instance that there is not has no answer. -/
def together (h : Host) (requests : List (Nat × InstanceOp)) : Host × List (Option Answer) :=
  if requests.length ≤ LocalInstance.queueCapacity then h.fewTogether requests
  else
    let (after, answers) := h.manyTogether (requests.filter h.isOf) none
    let (_, answers) := requests.foldl (fun (left, given) request =>
      if h.isOf request then (left.drop 1, left.headD none :: given) else (left, none :: given))
      (answers, [])
    (after, answers.reverse)

def request (h : Host) (i : Nat) (op : InstanceOp) : Host × Option Answer :=
  let (h, answers) := h.together [(i, op)]
  (h, answers.head?.join)

def smallFanOut : Nat := 50

/-- What becomes of a request in time. Only an instance that has stopped answers at once: with no
time at all, a request to any other is handled, but reported late. -/
def settle (limit : Option Nat) (before : LocalInstance) (answer : Answer) : Answer :=
  match FanOut.settle waitFor limit ⟨some 0, before.state = .stopped, answer⟩ with
  | some (_, answer) => answer
  | none => answer

def fanOut (h : Host) (op : InstanceOp) (targets : List Nat) (limit : Option Nat) :
    Host × Report StageKey :=
  let requests := (targets.map (·, op)).filter h.isOf
  let (after, answers) :=
    if requests.length ≤ smallFanOut then
      let (after, answers) := h.fewTogether requests
      (after, (requests.zip answers).map fun (request, answer) => do
        settle limit (← h.instances[request.1]?) (← answer))
    else h.manyTogether requests limit
  let outcomes := (requests.zip answers).filterMap fun (request, answer) => do
    some ((← h.instances[request.1]?).key, ← answer)
  (after, FanOut.report outcomes)

def liveCount (h : Host) : Nat := (h.instances.filter (·.state ≠ .stopped)).length

def shutDown (h : Host) : Host := { h with instances := h.instances.map (·.shutDown) }

def close (h : Host) : Host := { h.shutDown with isOpen := false }

end Host
end FlowRuntime
