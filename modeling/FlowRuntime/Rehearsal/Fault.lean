import FlowRuntime.Program.Spec

/-!
Planned faults. A fault says which calls it strikes and what it does to them: they
hang for good, or they take some time, after which they fail or go on to where they
were bound. Of several faults the first that matches strikes. A fault may wear out.
-/
namespace FlowRuntime.Rehearsal

inductive Action where
  | start
  | suspend
  | resume
  | stop
  | command
  | bind
  | repartition
  deriving DecidableEq, Inhabited

structure Site where
  action : Action
  stage : String
  id : Nat
  deriving DecidableEq, Inhabited

/-- When a call is done with, and the failure it then meets if it does not go on. -/
structure Fate where
  delay : Option Nat
  failure : Option String
  deriving DecidableEq, Inhabited

def Fate.unharmed : Fate := ⟨some 0, none⟩

structure Fault where
  action : Action
  stage : Option String
  id : Option Nat
  fate : Fate
  left : Option Nat
  deriving DecidableEq, Inhabited

namespace Fault

def strikes (f : Fault) (site : Site) : Bool :=
  f.action = site.action && f.stage.all (· = site.stage) && f.id.all (· = site.id)
    && f.left ≠ some 0

def wear (f : Fault) : Fault := { f with left := f.left.map (· - 1) }

/-- What the first fault that strikes makes of a call, and the faults thereafter. -/
def meet (site : Site) : List Fault → List Fault × Fate
  | [] => ([], .unharmed)
  | f :: rest =>
    if f.strikes site then (f.wear :: rest, f.fate)
    else
      let (rest, fate) := meet site rest
      (f :: rest, fate)

end Fault
end FlowRuntime.Rehearsal
