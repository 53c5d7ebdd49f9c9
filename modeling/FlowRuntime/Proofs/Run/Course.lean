import FlowRuntime.Rehearsal.World
import FlowRuntime.Run.Request

/-!
How an operation goes, given the answers it gets. The answers may be any at all, so
what holds of every course holds whatever fails, is late or is given up, and a call
that is never answered is where a course stops. We verify that the course of a
sequence of operations is made of the courses of its parts, and that wherever an
activity has come to it can still come to its end, even if all it asks for is
refused from then on.
-/
namespace FlowRuntime

def Call.logged : Call → List Rehearsal.LoggedCall
  | .bind groups => [.bind groups]
  | .repartition group => [.repartition group]
  | .start options => [.start options]
  | .fanOut op targets => targets.map fun t => .request op t.1

namespace Exchange

/-- Whether a start or a repartition succeeded; what becomes of a fan-out does not count. -/
def isGranted : Exchange → Bool
  | ⟨.bind _, .ok _⟩ => true
  | ⟨.repartition _, .ok _⟩ => true
  | ⟨.start _, .ok _⟩ => true
  | _ => false

end Exchange

def repartitioned (log : List Exchange) : Bool :=
  log.any fun e => e.isGranted && e.call matches .repartition _

def begunBy (log : List Exchange) : Nat :=
  log.countP fun e => e.isGranted && e.call matches .start _

theorem repartitioned_append (log log' : List Exchange) :
    repartitioned (log ++ log') = (repartitioned log || repartitioned log') := List.any_append

theorem begunBy_append (log log' : List Exchange) :
    begunBy (log ++ log') = begunBy log + begunBy log' := List.countP_append

theorem repartitioned_refused {log : List Exchange} (refused : ∀ e ∈ log, e.isGranted = false) :
    repartitioned log = false := by
  rw [repartitioned, List.any_eq_false]
  intro e mem
  simp [refused e mem]

theorem begunBy_refused {log : List Exchange} (refused : ∀ e ∈ log, e.isGranted = false) :
    begunBy log = 0 := by
  rw [begunBy, List.countP_eq_zero]
  intro e mem
  simp [refused e mem]

def callsOf (log : List Exchange) : List Rehearsal.LoggedCall := log.flatMap (·.call.logged)

@[simp] theorem callsOf_nil : callsOf [] = [] := rfl

@[simp] theorem callsOf_cons (e : Exchange) (log : List Exchange) :
    callsOf (e :: log) = e.call.logged ++ callsOf log := rfl

@[simp] theorem callsOf_append (log log' : List Exchange) :
    callsOf (log ++ log') = callsOf log ++ callsOf log' := List.flatMap_append

namespace Activity
variable {α β : Type}

/-- With the answers of these exchanges, the one activity has come to be the other. -/
inductive Leads : Activity α → List Exchange → Activity α → Prop where
  | here (a : Activity α) : Leads a [] a
  | next {run : Run} {call : Call} {resume : call.Answer → Activity α} (answer : call.Answer)
      {log : List Exchange} {b : Activity α} (rest : Leads (resume answer) log b) :
      Leads (.waiting run call resume) (⟨call, answer⟩ :: log) b

theorem Leads.trans {a b c : Activity α} {log log' : List Exchange} (first : a.Leads log b)
    (second : b.Leads log' c) : a.Leads (log ++ log') c := by
  induction first with
  | here a => exact second
  | next answer rest ih => exact .next answer (ih second)

theorem leads_done_iff {run : Run} {x : α} {log : List Exchange} {b : Activity α} :
    (done run x).Leads log b ↔ log = [] ∧ b = done run x := by
  constructor
  · intro leads
    cases leads
    exact ⟨rfl, rfl⟩
  · rintro ⟨rfl, rfl⟩
    exact .here _

/-- What has been called for, call by call: what was answered, and what is waited for. -/
def phases (log : List Exchange) : Activity α → List (List Rehearsal.LoggedCall)
  | .done _ _ => log.map (·.call.logged)
  | .waiting _ call _ => log.map (·.call.logged) ++ [call.logged]

theorem phases_cons (e : Exchange) (log : List Exchange) (a : Activity α) :
    a.phases (e :: log) = e.call.logged :: a.phases log := by
  cases a <;> rfl

theorem phases_append (log log' : List Exchange) (a : Activity α) :
    a.phases (log ++ log') = log.map (·.call.logged) ++ a.phases log' := by
  induction log with
  | nil => rfl
  | cons e rest ih => rw [List.cons_append, phases_cons, ih, List.map_cons, List.cons_append]

theorem map_run (a : Activity α) (f : α → β) :
    (a.bind fun run x => done run (f x)).run = a.run := by
  cases a <;> rfl

theorem map_phases (a : Activity α) (f : α → β) (log : List Exchange) :
    (a.bind fun run x => done run (f x)).phases log = a.phases log := by
  cases a <;> rfl

theorem Leads.bind {a b : Activity α} {log : List Exchange} (leads : a.Leads log b)
    (next : Run → α → Activity β) : (a.bind next).Leads log (b.bind next) := by
  induction leads with
  | here a => exact .here _
  | next answer rest ih => exact .next answer ih

theorem map_leads_iff {a : Activity α} {f : α → β} {log : List Exchange} {b : Activity β} :
    (a.bind fun run x => done run (f x)).Leads log b ↔
      ∃ before, a.Leads log before ∧ b = before.bind fun run x => done run (f x) := by
  constructor
  · intro leads
    induction a generalizing log with
    | done run x =>
      obtain ⟨rfl, rfl⟩ := leads_done_iff.mp leads
      exact ⟨done run x, .here _, rfl⟩
    | waiting run call resume ih =>
      cases leads with
      | here => exact ⟨waiting run call resume, .here _, rfl⟩
      | next answer rest =>
        obtain ⟨before, first, same⟩ := ih answer rest
        exact ⟨before, .next answer first, same⟩
  · rintro ⟨before, first, rfl⟩
    exact first.bind _

theorem bind_leads_done_iff {a : Activity α} {next : Run → α → Activity β} {log : List Exchange}
    {run : Run} {y : β} :
    (a.bind next).Leads log (done run y) ↔ ∃ log₁ run₁ x log₂,
      a.Leads log₁ (done run₁ x) ∧ (next run₁ x).Leads log₂ (done run y) ∧ log = log₁ ++ log₂ := by
  constructor
  · intro leads
    induction a generalizing log with
    | done run₁ x => exact ⟨[], run₁, x, log, .here _, leads, rfl⟩
    | waiting run₀ call resume ih =>
      cases leads with
      | next answer rest =>
        obtain ⟨log₁, run₁, x, log₂, first, second, rfl⟩ := ih answer rest
        exact ⟨_ :: log₁, run₁, x, log₂, .next answer first, second, rfl⟩
  · rintro ⟨log₁, run₁, x, log₂, first, second, rfl⟩
    exact (first.bind next).trans second

theorem bind_leads_waiting_iff {a : Activity α} {next : Run → α → Activity β}
    {log : List Exchange} {run : Run} {call : Call} {resume : call.Answer → Activity β} :
    (a.bind next).Leads log (waiting run call resume) ↔
      (∃ before, a.Leads log (waiting run call before) ∧
        resume = fun answer => (before answer).bind next) ∨
      ∃ log₁ run₁ x log₂, a.Leads log₁ (done run₁ x) ∧
        (next run₁ x).Leads log₂ (waiting run call resume) ∧ log = log₁ ++ log₂ := by
  constructor
  · intro leads
    induction a generalizing log with
    | done run₁ x => exact .inr ⟨[], run₁, x, log, .here _, leads, rfl⟩
    | waiting run₀ call₀ resume₀ ih =>
      cases leads with
      | here => exact .inl ⟨resume₀, .here _, rfl⟩
      | next answer rest =>
        rcases ih answer rest with ⟨before, first, same⟩ | ⟨log₁, run₁, x, log₂, first, second, rfl⟩
        · exact .inl ⟨before, .next answer first, same⟩
        · exact .inr ⟨_ :: log₁, run₁, x, log₂, .next answer first, second, rfl⟩
  · rintro (⟨before, first, rfl⟩ | ⟨log₁, run₁, x, log₂, first, second, rfl⟩)
    · exact first.bind next
    · exact (first.bind next).trans second

/-- What refuses a call, or reports on nobody. -/
def refusal : (call : Call) → call.Answer
  | .bind _ => .error .instanceGone
  | .repartition _ => .error .instanceGone
  | .start _ => .error .instanceGone
  | .fanOut _ _ => ⟨[], []⟩

theorem refusal_not_granted (call : Call) : (Exchange.mk call (refusal call)).isGranted = false := by
  cases call <;> rfl

theorem exists_end (a : Activity α) (answers : (call : Call) → call.Answer) :
    ∃ log run x, a.Leads log (done run x) ∧ ∀ e ∈ log, e.answer = answers e.call := by
  induction a with
  | done run x => exact ⟨[], run, x, .here _, by simp⟩
  | waiting run call resume ih =>
    obtain ⟨log, run', x, leads, answered⟩ := ih (answers call)
    exact ⟨⟨call, answers call⟩ :: log, run', x, .next _ leads,
      List.forall_mem_cons.mpr ⟨rfl, answered⟩⟩

theorem exists_refused_end (a : Activity α) :
    ∃ log run x, a.Leads log (done run x) ∧ ∀ e ∈ log, e.isGranted = false := by
  obtain ⟨log, run, x, leads, refused⟩ := a.exists_end refusal
  refine ⟨log, run, x, leads, ?_⟩
  rintro ⟨call, answer⟩ mem
  obtain rfl : answer = refusal call := refused _ mem
  exact refusal_not_granted call

end Activity

namespace Operation
variable {α β : Type}

/-- Begun on the first run, with the answers of these exchanges, the operation has ended. -/
def Returns (op : Operation α) (run : Run) (log : List Exchange) (run' : Run) (x : α) : Prop :=
  (op run).Leads log (.done run' x)

/-- With the answers of these exchanges, the operation has come to wait for one more. -/
def Awaits (op : Operation α) (run : Run) (log : List Exchange) (run' : Run) (call : Call) : Prop :=
  ∃ resume, (op run).Leads log (.waiting run' call resume)

theorem Awaits.exists_returns {op : Operation α} {run run' : Run} {log : List Exchange}
    {call : Call} (awaits : Awaits op run log run' call) :
    ∃ rest last x, Returns op run (log ++ ⟨call, Activity.refusal call⟩ :: rest) last x ∧
      ∀ e ∈ rest, e.isGranted = false := by
  obtain ⟨resume, leads⟩ := awaits
  obtain ⟨rest, run'', x, finished, refused⟩ :=
    (resume (Activity.refusal call)).exists_refused_end
  exact ⟨rest, run'', x, leads.trans (.next _ finished), refused⟩

@[simp] theorem returns_pure {a x : α} {run run' : Run} {log : List Exchange} :
    Returns (pure a) run log run' x ↔ log = [] ∧ run' = run ∧ x = a := by
  apply Activity.leads_done_iff.trans
  simp

theorem returns_bind {op : Operation α} {next : α → Operation β} {run run' : Run}
    {log : List Exchange} {y : β} :
    Returns (op >>= next) run log run' y ↔ ∃ log₁ run₁ x log₂,
      Returns op run log₁ run₁ x ∧ Returns (next x) run₁ log₂ run' y ∧ log = log₁ ++ log₂ :=
  Activity.bind_leads_done_iff

@[simp] theorem not_awaits_pure {a : α} {run run' : Run} {log : List Exchange} {call : Call} :
    ¬ Awaits (pure a) run log run' call := by
  rintro ⟨resume, leads⟩
  exact nomatch leads

theorem awaits_bind {op : Operation α} {next : α → Operation β} {run run' : Run}
    {log : List Exchange} {call : Call} :
    Awaits (op >>= next) run log run' call ↔ Awaits op run log run' call ∨
      ∃ log₁ run₁ x log₂, Returns op run log₁ run₁ x ∧ Awaits (next x) run₁ log₂ run' call ∧
        log = log₁ ++ log₂ := by
  constructor
  · rintro ⟨resume, leads⟩
    rcases Activity.bind_leads_waiting_iff.mp leads with
      ⟨before, first, _⟩ | ⟨log₁, run₁, x, log₂, first, second, same⟩
    · exact .inl ⟨before, first⟩
    · exact .inr ⟨log₁, run₁, x, log₂, first, ⟨resume, second⟩, same⟩
  · rintro (⟨before, first⟩ | ⟨log₁, run₁, x, log₂, first, ⟨resume, second⟩, rfl⟩)
    · exact ⟨_, first.bind _⟩
    · exact ⟨resume, (first.bind _).trans second⟩

/-! What asks for nothing only changes the run that the rest goes on from. -/

section
variable {next : Unit → Operation β} {run run' : Run} {log : List Exchange} {y : β} {call : Call}

@[simp] theorem returns_read_bind {f : Run → α} {next : α → Operation β} :
    Returns (read f >>= next) run log run' y ↔ Returns (next (f run)) run log run' y := Iff.rfl

@[simp] theorem returns_change_bind {f : Run → Run} :
    Returns (change f >>= next) run log run' y ↔ Returns (next ()) (f run) log run' y := Iff.rfl

@[simp] theorem returns_transition_bind {target : RunState} {cause : Option String} :
    Returns (transition target cause >>= next) run log run' y ↔
      Returns (next ()) (run.transition target cause) log run' y := Iff.rfl

theorem returns_ask_bind (call : Call) {next : call.Answer → Operation β} :
    Returns (ask call >>= next) run log run' y ↔ ∃ (answer : call.Answer) (rest : List Exchange),
      log = ⟨call, answer⟩ :: rest ∧ Returns (next answer) run rest run' y := by
  constructor
  · intro returned
    cases returned with
    | next answer rest => exact ⟨answer, _, rfl, rest⟩
  · rintro ⟨answer, rest, rfl, returned⟩
    exact .next answer returned

@[simp] theorem returns_fanOut_bind {op : InstanceOp} {targets : List (StageKey × Handle)} :
    Returns (fanOut op targets >>= next) run log run' y ↔
      ∃ (report : Report StageKey) (rest : List Exchange),
        log = ⟨.fanOut op targets, report⟩ :: rest ∧
        Returns (next ()) (run.countOpFailures report.failed.length) rest run' y :=
  returns_ask_bind (.fanOut op targets)

@[simp] theorem awaits_read_bind {f : Run → α} {next : α → Operation β} :
    Awaits (read f >>= next) run log run' call ↔ Awaits (next (f run)) run log run' call := Iff.rfl

@[simp] theorem awaits_change_bind {f : Run → Run} :
    Awaits (change f >>= next) run log run' call ↔ Awaits (next ()) (f run) log run' call := Iff.rfl

@[simp] theorem awaits_transition_bind {target : RunState} {cause : Option String} :
    Awaits (transition target cause >>= next) run log run' call ↔
      Awaits (next ()) (run.transition target cause) log run' call := Iff.rfl

theorem awaits_ask_bind (first : Call) {next : first.Answer → Operation β} :
    Awaits (ask first >>= next) run log run' call ↔
      (log = [] ∧ run' = run ∧ call = first) ∨
      ∃ (answer : first.Answer) (rest : List Exchange),
        log = ⟨first, answer⟩ :: rest ∧ Awaits (next answer) run rest run' call := by
  constructor
  · rintro ⟨resume, leads⟩
    cases leads with
    | here => exact .inl ⟨rfl, rfl, rfl⟩
    | next answer rest => exact .inr ⟨answer, _, rfl, resume, rest⟩
  · rintro (⟨rfl, rfl, rfl⟩ | ⟨answer, rest, rfl, resume, leads⟩)
    · exact ⟨_, .here _⟩
    · exact ⟨resume, .next answer leads⟩

@[simp] theorem awaits_fanOut_bind {op : InstanceOp} {targets : List (StageKey × Handle)} :
    Awaits (fanOut op targets >>= next) run log run' call ↔
      (log = [] ∧ run' = run ∧ call = .fanOut op targets) ∨
      ∃ (report : Report StageKey) (rest : List Exchange),
        log = ⟨.fanOut op targets, report⟩ :: rest ∧
        Awaits (next ()) (run.countOpFailures report.failed.length) rest run' call :=
  awaits_ask_bind (.fanOut op targets)

end

theorem returns_requiring {verb : RunVerb} {allowed : List RunState} {op : Operation Outcome}
    {run run' : Run} {log : List Exchange} {x : Outcome} :
    Returns (requiring verb allowed op) run log run' x ↔
      (run.state ∈ allowed ∧ Returns op run log run' x) ∨
      (run.state ∉ allowed ∧ log = [] ∧ run' = run ∧ x = .error (.wrongState verb run.state)) := by
  unfold Returns requiring
  by_cases h : run.state ∈ allowed
  · simp [h]
  · simp [h, Activity.leads_done_iff]

theorem awaits_requiring {verb : RunVerb} {allowed : List RunState} {op : Operation Outcome}
    {run run' : Run} {log : List Exchange} {call : Call} :
    Awaits (requiring verb allowed op) run log run' call ↔
      run.state ∈ allowed ∧ Awaits op run log run' call := by
  unfold Awaits requiring
  by_cases h : run.state ∈ allowed
  · simp [h]
  · simp [h, Activity.leads_done_iff]

end Operation
end FlowRuntime
