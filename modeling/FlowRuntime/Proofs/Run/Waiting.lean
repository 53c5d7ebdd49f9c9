import FlowRuntime.Proofs.Run.Rescale

/-!
Runs while they wait. Wherever an activity waits for an answer the run can be seen, and so
can it when the activity is done. We verify, for what an operation does to a run between two
calls, that a condition which the changes of a run keep holds at every call that is made for it.
-/
namespace FlowRuntime
namespace Activity
variable {α β : Type} {during : Run → Prop} {after : Run → α → Prop}

/-- Whenever the activity waits, the run is of the one kind; when it is done, it is of the other. -/
def Holds (during : Run → Prop) (after : Run → α → Prop) : Activity α → Prop
  | .done run x => after run x
  | .waiting run _ resume => during run ∧ ∀ answer, (resume answer).Holds during after

theorem Holds.bind {a : Activity α} {next : Run → α → Activity β} {after' : Run → β → Prop}
    (first : a.Holds during after)
    (later : ∀ run x, after run x → (next run x).Holds during after') :
    (a.bind next).Holds during after' := by
  induction a with
  | done run x => exact later run x first
  | waiting run call resume ih =>
    constructor
    · exact first.1
    · intro answer
      exact ih answer (first.2 answer)

theorem Holds.leads {a b : Activity α} {log : List Exchange} (holds : a.Holds during after)
    (leads : a.Leads log b) : b.Holds during after := by
  induction leads with
  | here a => exact holds
  | next answer rest ih => exact ih (holds.2 answer)

end Activity

namespace Operation
variable {α β : Type} {P : Run → Prop}

/-- Begun on a run of this kind, the operation makes calls only for runs of this kind, and leaves one. -/
def Keeps (P : Run → Prop) (op : Operation α) : Prop :=
  ∀ run, P run → (op run).Holds P fun run _ => P run

theorem keeps_pure (x : α) : Keeps P (pure x) := by
  intro run here
  exact here

theorem keeps_bind {op : Operation α} {next : α → Operation β} (first : Keeps P op)
    (later : ∀ x, Keeps P (next x)) : Keeps P (op >>= next) := by
  intro run here
  exact (first run here).bind fun run x => later x run

theorem keeps_read (f : Run → α) : Keeps P (read f) := by
  intro run here
  exact here

theorem keeps_change {f : Run → Run} (kept : ∀ run, P run → P (f run)) : Keeps P (change f) := by
  intro run here
  exact kept run here

theorem keeps_ask (call : Call) : Keeps P (ask call) := by
  intro run here
  exact ⟨here, fun _ => here⟩

/-- A condition that does not depend on what is held and what is counted. -/
structure Steady (P : Run → Prop) : Prop where
  hold : ∀ run key handle, P run → P (run.hold key handle)
  release : ∀ run keys, P run → P (run.release keys)
  releaseAll : ∀ run, P run → P run.releaseAll
  countRescale : ∀ run, P run → P run.countRescale
  countRescaleFailure : ∀ run, P run → P run.countRescaleFailure
  countOpFailures : ∀ run failed, P run → P (run.countOpFailures failed)

section
variable (steady : Steady P)
include steady

theorem keeps_fanOut (op : InstanceOp) (targets : List (StageKey × Handle)) :
    Keeps P (fanOut op targets) := by
  refine keeps_bind (keeps_ask _) ?_
  intro report
  apply keeps_change
  intro run here
  exact steady.countOpFailures run _ here

theorem keeps_stopAll : Keeps P stopAll := by
  refine keeps_bind (keeps_read _) ?_
  intro targets
  refine keeps_bind (keeps_change steady.releaseAll) ?_
  intro _
  exact keeps_fanOut steady _ _

theorem keeps_startInstances (stage : StageSpec) (total left first : Nat) :
    Keeps P (startInstances stage total left first) := by
  induction left generalizing first with
  | zero => exact keeps_pure _
  | succ left ih =>
    refine keeps_bind (keeps_read _) ?_
    intro options
    refine keeps_bind (keeps_ask _) ?_
    intro answer
    cases answer with
    | error e => exact keeps_pure _
    | ok handle =>
      refine keeps_bind (keeps_change ?_) ?_
      · intro run here
        exact steady.hold run _ handle here
      · intro _
        exact ih _

theorem keeps_repartitionAround (stage : String) (targets : List (StageKey × Handle))
    (partitions : Nat) : Keeps P (repartitionAround stage targets partitions) := by
  refine keeps_bind (keeps_fanOut steady _ _) ?_
  intro _
  refine keeps_bind ?_ ?_
  · refine keeps_bind (keeps_read _) ?_
    intro group
    refine keeps_bind (keeps_ask _) ?_
    intro answer
    exact keeps_pure _
  · intro assigned
    cases assigned with
    | error e => exact keeps_pure _
    | ok _ =>
      refine keeps_bind (keeps_fanOut steady _ _) ?_
      intro _
      refine keeps_bind (keeps_fanOut steady _ _) ?_
      intro _
      exact keeps_pure _

theorem keeps_increase (stage : StageSpec) (live target : Nat) :
    Keeps P (increase stage live target) := by
  refine keeps_bind (keeps_read _) ?_
  intro targets
  refine keeps_bind (keeps_repartitionAround steady _ _ _) ?_
  intro around
  cases around with
  | error e => exact keeps_pure _
  | ok _ => exact keeps_startInstances steady _ _ _ _

theorem keeps_decrease (stage : StageSpec) (live target : Nat) :
    Keeps P (decrease stage live target) := by
  refine keeps_bind (keeps_read _) ?_
  intro excess
  refine keeps_bind (keeps_change ?_) ?_
  · intro run here
    exact steady.release run _ here
  · intro _
    refine keeps_bind (keeps_fanOut steady _ _) ?_
    intro _
    refine keeps_bind (keeps_read _) ?_
    intro targets
    exact keeps_repartitionAround steady _ _ _

end

/-! ### Conditions that hold up to the last call -/

/-- Begun on a run of this kind, the operation makes calls only for runs of this kind, whatever it
leaves. -/
def Until (P : Run → Prop) (op : Operation α) : Prop :=
  ∀ run, P run → (op run).Holds P fun _ _ => True

theorem until_bind {op : Operation α} {next : α → Operation β} (first : Keeps P op)
    (later : ∀ x, Until P (next x)) : Until P (op >>= next) := by
  intro run here
  exact (first run here).bind fun run x => later x run

theorem until_map {op : Operation α} (f : α → β) (calls : Until P op) : Until P (f <$> op) := by
  intro run here
  exact (calls run here).bind fun _ _ _ => trivial

theorem until_requiring {verb : RunVerb} {allowed : List RunState} {op : Operation Outcome}
    (calls : Until P op) : Until P (requiring verb allowed op) := by
  intro run here
  unfold requiring
  split
  · exact calls run here
  · trivial

theorem until_turnAll (steady : Steady P) {through : RunState}
    (turned : ∀ run, P run → P (run.transition through none)) (target : RunState) (op : InstanceOp) :
    Until P (turnAll through target op) := by
  refine until_bind (keeps_change turned) ?_
  intro _
  refine until_bind (keeps_read _) ?_
  intro targets
  refine until_bind (keeps_fanOut steady _ _) ?_
  intro _ run _
  trivial

theorem until_stop (steady : Steady P)
    (turned : ∀ run, P run → P (run.transition .stopping none)) : Until P stop := by
  have down : Until P (do
      windDown
      transition .stopped none
      pure (Except.ok () : Outcome)) := by
    intro run here
    exact ⟨steady.releaseAll _ (turned run here), fun _ => trivial⟩
  intro run here
  unfold stop
  split
  · trivial
  · exact until_requiring down run here

end Operation
end FlowRuntime
