import FlowRuntime.Listener.Audience
import FlowRuntime.Rehearsal.Fault
import FlowRuntime.Run.Request

/-!
The steps of a rehearsal: requests that wait for their turn, asides that do not,
and any of these at once, each after some time. What is found has the shape of the
step.
-/
namespace FlowRuntime.Rehearsal

inductive Aside where
  | counts
  | state
  | cause
  | describe
  | info
  | watch
  | partitions (stage : String)
  | plan (fault : Fault)
  | clearFaults
  | shutDown
  | sleep (ms : Nat)
  | refuseWrites (count : Nat)
  | listen (name : String) (fears : Option RunState) (pace : List (Option Nat))
  | record
  | heard (name : String)
  | join
  deriving DecidableEq, Inhabited

inductive Request where
  | turn (r : RunRequest)
  | aside (a : Aside)
  deriving DecidableEq, Inhabited

inductive Step where
  | one (r : Request)
  | together (items : List (Nat × Step))
  deriving Inhabited

/-- For each of the things that were found together, the time it took since its own step began. -/
inductive Finding where
  | done
  | outcome (o : Outcome)
  | ids (ids : List Nat)
  | counts (counts : SortedMap String Nat)
  | state (state : RunState)
  | cause (cause : Option String)
  | description (text : String)
  | info (context : RunContext)
  | watched (changed : Bool) (state : RunState)
  | partitions (stage : Option Nat) (queues : List (QueueName × Option Nat))
  | heard (notices : Option (List Notice))
  | joined (all : Bool)
  | together (findings : List (Finding × Nat))
  deriving Inhabited

end FlowRuntime.Rehearsal
