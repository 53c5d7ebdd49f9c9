import FlowRuntime.Record.Store

/-!
The store of run records on its disk. A call that writes a record returns only after what
the open tree holds has been flushed, and a call that fails writes nothing; opening the
database again finds what the disk holds.
-/
namespace FlowRuntime

/-- What the open tree answers from, and what the disk holds. -/
structure Archive where
  tree : RecordStore
  disk : RecordStore

inductive ArchiveCall where
  | write (run : ProgramRunId) (w : RecordWrite)
  | get (run : ProgramRunId)
  | reopen

inductive ArchiveAnswer where
  | done
  | found (record : Option RunRecord)
  | failed (e : Failure)

namespace Archive

def fresh : Archive := ⟨.empty, .empty⟩

def flush (a : Archive) : Archive := { a with disk := a.tree }

def reopen (a : Archive) : Archive := { a with tree := a.disk }

def perform (a : Archive) : ArchiveCall → ArchiveAnswer × Archive
  | .write run w =>
    match a.tree.write run w with
    | .ok tree => (.done, flush { a with tree := tree })
    | .error e => (.failed e, a)
  | .get run =>
    match RecordStore.get? a.tree run with
    | .ok record => (.found record, a)
    | .error e => (.failed e, a)
  | .reopen => (.done, a.reopen)

def play (a : Archive) : List ArchiveCall → List ArchiveAnswer × Archive
  | [] => ([], a)
  | c :: rest =>
    let (answer, a) := a.perform c
    let (answers, a) := a.play rest
    (answer :: answers, a)

end Archive
end FlowRuntime
