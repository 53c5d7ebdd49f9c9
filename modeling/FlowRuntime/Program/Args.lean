import FlowRuntime.Program.Spec
import FlowRuntime.Text.After

/-!
Which arguments a stage sees. A run argument of the form `flowlet.STAGE.KEY` is
meant for one stage; any other key is meant for all of them. What is declared for
the stage comes last, what is meant for it alone comes first. A key behind the
scope of another stage is never seen under its full name.
-/
namespace FlowRuntime.Args

def scope : String := "flowlet."

def stageScope (stage : String) : String := scope ++ stage ++ "."

/-- The stage's own key, if the run argument is scoped to this stage; an empty one is no key. -/
def scopedKey? (stage key : String) : Option String :=
  match Text.after? (stageScope stage).toList key.toList with
  | none => none
  | some [] => none
  | some (c :: rest) => some (String.ofList (c :: rest))

def isScoped (key : String) : Bool := (Text.after? scope.toList key.toList).isSome

def plainEntries (run : Args) : List (String × String) :=
  run.entries.filter (fun e => !isScoped e.1)

def scopedEntries (stage : String) (run : Args) : List (String × String) :=
  run.entries.filterMap (fun e => (scopedKey? stage e.1).map (·, e.2))

def resolve (stage : String) (declared run : Args) : Args :=
  (declared.insertAll (plainEntries run)).insertAll (scopedEntries stage run)

end FlowRuntime.Args
