import FlowRuntime.Proofs.Run.Enacted
import FlowRuntime.Proofs.Run.Reached

/-!
Instances that hang do not stall a run whose fan-outs have a limit. No request fans out more
than four times, and those that suspend, resume or stop the run do so once and do nothing
else; what a fan-out reports is counted, and nothing depends on it but the count. We verify,
whatever the instances do and however long they take, that requests take no longer than
their fan-outs are given and their own calls take; that everyone is asked all the same; and that
a whole life of a run in which some instances behave differently is the same for all others.
-/
namespace FlowRuntime
open Operation

/-! ### The fan-outs of a course -/

theorem fanOuts_append (log log' : List Exchange) :
    fanOuts (log ++ log') = fanOuts log + fanOuts log' := List.countP_append

section
variable {c : RunContext} {log : List Exchange} {run run' : Run} {x : Outcome}

theorem Started.fanOuts_eq {openings : List Opening} {begun : List (StageKey × Handle)}
    (started : Started c openings log begun x) : fanOuts log = 0 := by
  induction started with
  | all => rfl
  | failed o rest e => rfl
  | next o handle later ih => simpa [fanOuts, Call.isFanOut] using ih

theorem Regrouped.fanOuts_le {stage : String} {targets : List (StageKey × Handle)}
    {partitions : Nat} (around : Regrouped c stage targets partitions log x) : fanOuts log ≤ 3 := by
  cases around with
  | refused paused e => exact Nat.le_add_left 1 2
  | done paused told resumed => exact Nat.le_refl 3

theorem Regrouped.fanOuts_of_error {stage : String} {targets : List (StageKey × Handle)}
    {partitions : Nat} {e : Failure}
    (around : Regrouped c stage targets partitions log (.error e)) : fanOuts log = 1 := by
  cases around with
  | refused paused e => rfl

variable {spec : StageSpec} {live target : Nat} {registry : Registry Handle}

theorem Reshaped.fanOuts_le (work : Reshaped run spec live target log registry x) :
    fanOuts log ≤ 4 := by
  cases work with
  | kept more around => exact Nat.le_succ_of_le around.fanOuts_le
  | grown more around started =>
    rw [fanOuts_append, started.fanOuts_eq]
    exact Nat.le_succ_of_le around.fanOuts_le
  | shrunk fewer stopped around =>
    rw [← List.singleton_append, fanOuts_append, Nat.add_comm]
    exact Nat.succ_le_succ around.fanOuts_le

theorem Reshaped.fanOuts_of_error {e : Failure}
    (work : Reshaped run spec live target log registry (.error e)) : fanOuts log ≤ 3 := by
  cases work with
  | kept more around => exact around.fanOuts_le
  | grown more around started =>
    rw [fanOuts_append, started.fanOuts_eq]
    exact around.fanOuts_le
  | shrunk fewer stopped around =>
    rw [← List.singleton_append, fanOuts_append, around.fanOuts_of_error]
    exact Nat.le_succ 2

theorem Rescaled.fanOuts_le (course : Rescaled run spec live target log run' x) :
    fanOuts log ≤ 4 := by
  cases course with
  | complete work => exact work.fanOuts_le
  | failed work report =>
    rw [fanOuts_append]
    exact Nat.succ_le_succ work.fanOuts_of_error

theorem Operation.Startup.fanOuts_le (startup : Startup run log run' x) : fanOuts log ≤ 1 := by
  cases startup with
  | unbound e => exact Nat.zero_le 1
  | withdrawn started report =>
    rw [← List.singleton_append, fanOuts_append, fanOuts_append, started.fanOuts_eq]
    exact Nat.le_refl 1
  | complete started =>
    rw [← List.singleton_append, fanOuts_append, started.fanOuts_eq]
    exact Nat.zero_le 1

theorem fanOuts_changeInstances {stage : String} {target : Nat}
    (returned : Returns (changeInstances stage target) run log run' x) : fanOuts log ≤ 4 := by
  by_cases busy : ∃ spec, Due run stage target spec
  · obtain ⟨spec, due⟩ := busy
    rw [Returns, changeInstances_due due] at returned
    exact (returns_rescale returned).fanOuts_le
  · obtain ⟨y, idle⟩ := changeInstances_idle (not_exists.mp busy)
    rw [Returns, idle] at returned
    obtain ⟨rfl, _⟩ := Activity.leads_done_iff.mp returned
    exact Nat.zero_le 4

end

def IsOneFanOut (log : List Exchange) : Prop :=
  log = [] ∨ ∃ (op : InstanceOp) (targets : List (StageKey × Handle)) (report : Report StageKey),
    log = [⟨.fanOut op targets, report⟩]

theorem IsOneFanOut.fanOuts_le {log : List Exchange} (one : IsOneFanOut log) : fanOuts log ≤ 1 := by
  rcases one with rfl | ⟨op, targets, report, rfl⟩
  · exact Nat.zero_le 1
  · exact Nat.le_refl 1

theorem IsOneFanOut.only {log : List Exchange} (one : IsOneFanOut log) :
    ∀ e ∈ log, e.call.isFanOut = true := by
  rcases one with rfl | ⟨op, targets, report, rfl⟩
  · simp
  · simp [Call.isFanOut]

theorem isOneFanOut_turned {verb : RunVerb} {allowed : List RunState} {through target : RunState}
    {op : InstanceOp} {run run' : Run} {log : List Exchange} {x : Outcome}
    (returned : Returns (requiring verb allowed (turnAll through target op)) run log run' x) :
    IsOneFanOut log := by
  rcases returns_requiring.mp returned with ⟨_, turned⟩ | ⟨_, idle, _⟩
  · obtain ⟨report, rfl, _⟩ := returns_turnAll turned
    exact .inr ⟨_, _, report, rfl⟩
  · exact .inl idle

theorem isOneFanOut_stop {run run' : Run} {log : List Exchange} {x : Outcome}
    (returned : Returns stop run log run' x) : IsOneFanOut log := by
  rcases returns_stop returned with ⟨_, report, rfl, _⟩ | ⟨idle, _⟩
  · exact .inr ⟨_, _, report, rfl⟩
  · exact .inl idle

/-! ### The time of an operation -/

section
variable {σ α : Type} {w : Surroundings σ} {op : Operation α} {run : Run}

theorem enact_fanOutMs_le {most : Nat}
    (few : ∀ log run' x, Returns op run log run' x → fanOuts log ≤ most) (l n : Nat)
    (crew : Handle → σ) : ((op run).enact w (some l) n crew).fanOutMs ≤ most * l := by
  obtain ⟨log, run', x, ended, _⟩ :=
    ((op run).enact w (some l) n crew).rest.exists_refused_end
  have whole := few _ run' x ((enact_leads (op run) n crew).trans ended)
  rw [fanOuts_append] at whole
  have first : fanOuts ((op run).enact w (some l) n crew).log ≤ most := by omega
  exact Nat.le_trans (enact_fanOutMs l (op run) n crew) (Nat.mul_le_mul_right l first)

structure Enactment.Within (e : Enactment σ α) (ms : Nat) : Prop where
  done : e.rest.IsDone
  soon : e.ms ≤ ms

theorem msOf_single_eq {timed : List (Exchange × Nat)}
    (only : ∀ e ∈ timed.map (·.1), e.call.isFanOut = true) :
    msOf (fun call => !call.isFanOut) timed = 0 := by
  induction timed with
  | nil => rfl
  | cons e rest ih =>
    obtain ⟨first, others⟩ := List.forall_mem_cons.mp only
    rw [msOf, ih others, first]
    rfl

theorem enact_within
    (one : ∀ log run' x, Returns op run log run' x → IsOneFanOut log) (l n : Nat)
    (crew : Handle → σ) : ((op run).enact w (some l) n crew).Within l := by
  have leads : (op run).Leads ((op run).enact w (some l) n crew).log
      ((op run).enact w (some l) n crew).rest := enact_leads (op run) n crew
  have done : ((op run).enact w (some l) n crew).rest.IsDone := by
    rcases enact_stops l (op run) n crew with done | ⟨run', call, resume, rest, single, _⟩
    · exact done
    · rw [rest] at leads
      obtain ⟨later, last, x, returned, _⟩ := Awaits.exists_returns ⟨resume, leads⟩
      have fans := (one _ last x returned).only ⟨call, Activity.refusal call⟩ (by simp)
      cases single.symm.trans fans
  refine ⟨done, ?_⟩
  obtain ⟨last, x, rest⟩ := done
  rw [rest] at leads
  have soon := enact_fanOutMs_le (w := w) (fun log run' x returned => (one log run' x returned).fanOuts_le)
    l n crew
  have own : ((op run).enact w (some l) n crew).ownMs = 0 :=
    msOf_single_eq (one _ last x leads).only
  rw [Enactment.ms_eq, own]
  omega

end

/-! ### What does not depend on reports -/

def Run.recount (run : Run) (failures : Nat) : Run :=
  { run with metrics.opFailures := failures }

/-- The same run, but for how many have been counted that did not follow. -/
def Run.Recounted (run run' : Run) : Prop := ∃ failures, run' = run.recount failures

theorem Run.recounted_refl (run : Run) : run.Recounted run := ⟨run.metrics.opFailures, rfl⟩

/-- Activities that ask for the same for as long as they are answered the same, whatever is reported
of fan-outs. -/
inductive Activity.Alike {α : Type} : Activity α → Activity α → Prop where
  | done {run run' : Run} (counted : run.Recounted run') (x : α) :
      Alike (.done run x) (.done run' x)
  | waiting {run run' : Run} (counted : run.Recounted run') {call : Call}
      {resume resume' : call.Answer → Activity α}
      (next : ∀ answer answer', (call.isFanOut = false → answer' = answer) →
        Alike (resume answer) (resume' answer')) :
      Alike (.waiting run call resume) (.waiting run' call resume')

theorem Activity.Alike.bind {α β : Type} {a a' : Activity α} {next next' : Run → α → Activity β}
    (first : a.Alike a')
    (later : ∀ run run' x, run.Recounted run' → (next run x).Alike (next' run' x)) :
    (a.bind next).Alike (a'.bind next') := by
  induction first with
  | done counted x => exact later _ _ x counted
  | waiting counted _ ih => exact .waiting counted ih

namespace Operation
variable {α β : Type}

/-- The operation goes on in the same way, whatever has been and will be reported of fan-outs. -/
def Indifferent (op : Operation α) : Prop :=
  ∀ run run', run.Recounted run' → (op run).Alike (op run')

theorem indifferent_pure (x : α) : Indifferent (pure x) := fun _ _ counted => .done counted x

theorem indifferent_bind {op : Operation α} {next : α → Operation β} (first : op.Indifferent)
    (later : ∀ x, (next x).Indifferent) : Indifferent (op >>= next) :=
  fun run run' counted => (first run run' counted).bind fun run run' x => later x run run'

theorem indifferent_read {f : Run → α} (blind : ∀ run failures, f (run.recount failures) = f run) :
    Indifferent (read f) := by
  rintro run _ ⟨failures, rfl⟩
  rw [read, read, blind]
  exact .done ⟨failures, rfl⟩ _

theorem indifferent_change {f : Run → Run}
    (kept : ∀ run run', run.Recounted run' → (f run).Recounted (f run')) :
    Indifferent (change f) :=
  fun run run' counted => .done (kept run run' counted) ()

theorem indifferent_ask {call : Call} (single : call.isFanOut = false) : Indifferent (ask call) := by
  intro run run' counted
  refine .waiting counted ?_
  intro answer answer' same
  rw [same single]
  exact .done counted answer

theorem indifferent_transition (target : RunState) (cause : Option String) :
    Indifferent (transition target cause) := by
  apply indifferent_change
  rintro run _ ⟨failures, rfl⟩
  exact ⟨failures, rfl⟩

theorem indifferent_fanOut (op : InstanceOp) (targets : List (StageKey × Handle)) :
    Indifferent (fanOut op targets) := by
  rintro run _ ⟨failures, rfl⟩
  refine .waiting ⟨failures, rfl⟩ ?_
  intro report report' _
  exact .done ⟨failures + report'.failed.length, rfl⟩ ()

theorem indifferent_requiring {verb : RunVerb} {allowed : List RunState} {op : Operation Outcome}
    (indifferent : op.Indifferent) : Indifferent (requiring verb allowed op) := by
  rintro run _ ⟨failures, rfl⟩
  have state : (run.recount failures).state = run.state := rfl
  rw [requiring, requiring, state]
  by_cases may : run.state ∈ allowed
  · rw [if_pos may, if_pos may]
    exact indifferent run _ ⟨failures, rfl⟩
  · rw [if_neg may, if_neg may]
    exact .done ⟨failures, rfl⟩ _

/-! What is changed without a look at the count. -/

theorem indifferent_publish : Indifferent (change Run.publish) := by
  apply indifferent_change
  rintro run _ ⟨failures, rfl⟩
  exact ⟨failures, rfl⟩

theorem indifferent_stopAll : Indifferent stopAll := by
  refine indifferent_bind (indifferent_read fun _ _ => rfl) fun targets => ?_
  refine indifferent_bind (indifferent_change ?_) fun _ => indifferent_fanOut _ _
  rintro run _ ⟨failures, rfl⟩
  exact ⟨failures, rfl⟩

theorem indifferent_windDown : Indifferent windDown :=
  indifferent_bind (indifferent_transition _ _) fun _ =>
    indifferent_bind indifferent_stopAll fun _ => indifferent_publish

theorem indifferent_startInstances (stage : StageSpec) (total left first : Nat) :
    Indifferent (startInstances stage total left first) := by
  induction left generalizing first with
  | zero => exact indifferent_pure _
  | succ left ih =>
    refine indifferent_bind (indifferent_read fun _ _ => rfl) fun options => ?_
    refine indifferent_bind (indifferent_ask rfl) fun answer => ?_
    cases answer with
    | error e => exact indifferent_pure _
    | ok handle =>
      refine indifferent_bind (indifferent_change ?_) fun _ => ih _
      rintro run _ ⟨failures, rfl⟩
      exact ⟨failures, rfl⟩

theorem indifferent_startStages (stages : List StageSpec) : Indifferent (startStages stages) := by
  induction stages with
  | nil => exact indifferent_pure _
  | cons stage rest ih =>
    refine indifferent_bind (indifferent_startInstances _ _ _ _) fun x => ?_
    cases x with
    | error e => exact indifferent_pure _
    | ok _ => exact ih

theorem indifferent_start : Indifferent start := by
  refine indifferent_bind ?_ fun bound => ?_
  · exact indifferent_bind (indifferent_read fun _ _ => rfl) fun _ =>
      indifferent_bind (indifferent_ask rfl) fun _ => indifferent_pure _
  · cases bound with
    | error e => exact indifferent_pure _
    | ok _ =>
      refine indifferent_bind (indifferent_read fun _ _ => rfl) fun stages =>
        indifferent_bind (indifferent_startStages stages) fun filled => ?_
      cases filled with
      | error e => exact indifferent_bind indifferent_stopAll fun _ => indifferent_pure _
      | ok _ =>
        exact indifferent_bind indifferent_publish fun _ =>
          indifferent_bind (indifferent_transition _ _) fun _ => indifferent_pure _

theorem indifferent_turnAll (through target : RunState) (op : InstanceOp) :
    Indifferent (turnAll through target op) :=
  indifferent_bind (indifferent_transition _ _) fun _ =>
    indifferent_bind (indifferent_read fun _ _ => rfl) fun _ =>
      indifferent_bind (indifferent_fanOut _ _) fun _ =>
        indifferent_bind (indifferent_transition _ _) fun _ => indifferent_pure _

theorem indifferent_stop : Indifferent stop := by
  rintro run _ ⟨failures, rfl⟩
  have state : (run.recount failures).state = run.state := rfl
  rw [stop, stop, state]
  by_cases stopped : run.state = .stopped
  · rw [if_pos stopped, if_pos stopped]
    exact .done ⟨failures, rfl⟩ _
  · rw [if_neg stopped, if_neg stopped]
    apply indifferent_requiring _ run _ ⟨failures, rfl⟩
    exact indifferent_bind indifferent_windDown fun _ =>
      indifferent_bind (indifferent_transition _ _) fun _ => indifferent_pure _

theorem indifferent_repartitionAround (stage : String) (targets : List (StageKey × Handle))
    (partitions : Nat) : Indifferent (repartitionAround stage targets partitions) := by
  refine indifferent_bind (indifferent_fanOut _ _) fun _ => indifferent_bind ?_ fun assigned => ?_
  · exact indifferent_bind (indifferent_read fun _ _ => rfl) fun _ =>
      indifferent_bind (indifferent_ask rfl) fun _ => indifferent_pure _
  · cases assigned with
    | error e => exact indifferent_pure _
    | ok _ =>
      exact indifferent_bind (indifferent_fanOut _ _) fun _ =>
        indifferent_bind (indifferent_fanOut _ _) fun _ => indifferent_pure _

theorem indifferent_increase (stage : StageSpec) (live target : Nat) :
    Indifferent (increase stage live target) := by
  refine indifferent_bind (indifferent_read fun _ _ => rfl) fun _ =>
    indifferent_bind (indifferent_repartitionAround _ _ _) fun around => ?_
  cases around with
  | error e => exact indifferent_pure _
  | ok _ => exact indifferent_startInstances _ _ _ _

theorem indifferent_decrease (stage : StageSpec) (live target : Nat) :
    Indifferent (decrease stage live target) := by
  refine indifferent_bind (indifferent_read fun _ _ => rfl) fun excess => ?_
  refine indifferent_bind (indifferent_change ?_) fun _ => ?_
  · rintro run _ ⟨failures, rfl⟩
    exact ⟨failures, rfl⟩
  · exact indifferent_bind (indifferent_fanOut _ _) fun _ =>
      indifferent_bind (indifferent_read fun _ _ => rfl) fun _ =>
        indifferent_repartitionAround _ _ _

theorem indifferent_conclude (stage : StageSpec) (target : Nat) (x : Outcome) :
    Indifferent (conclude stage target x) := by
  refine indifferent_bind indifferent_publish fun _ => ?_
  cases x with
  | ok _ => exact indifferent_pure _
  | error cause =>
    refine indifferent_bind (indifferent_change ?_) fun _ => ?_
    · rintro run _ ⟨failures, rfl⟩
      exact ⟨failures, rfl⟩
    · exact indifferent_bind indifferent_windDown fun _ =>
        indifferent_bind (indifferent_transition _ _) fun _ => indifferent_pure _

theorem indifferent_rescale (stage : StageSpec) (live target : Nat) :
    Indifferent (rescale stage live target) := by
  rw [rescale_eq]
  refine indifferent_bind (indifferent_change ?_) fun _ =>
    indifferent_bind ?_ (indifferent_conclude stage target)
  · rintro run _ ⟨failures, rfl⟩
    exact ⟨failures, rfl⟩
  · split
    · exact indifferent_increase stage live target
    · exact indifferent_decrease stage live target

theorem indifferent_changeInstances (stage : String) (target : Nat) :
    Indifferent (changeInstances stage target) := by
  apply indifferent_requiring
  rintro run _ ⟨failures, rfl⟩
  have counted : run.Recounted (run.recount failures) := ⟨failures, rfl⟩
  have context : (run.recount failures).context = run.context := rfl
  have registry : (run.recount failures).registry = run.registry := rfl
  simp only [context, registry]
  by_cases none : target = 0
  · simp only [if_pos none]
    exact .done counted _
  · simp only [if_neg none]
    cases run.context.flow.stage? stage with
    | none => exact .done counted _
    | some spec =>
      by_cases same : Registry.liveCount run.registry stage = target
      · simp only [if_pos same]
        exact .done counted _
      · simp only [if_neg same]
        exact indifferent_rescale spec _ target run _ counted

theorem indifferent_request (request : RunRequest) : Indifferent request.operation := by
  cases request with
  | suspend =>
    exact indifferent_bind (indifferent_requiring (indifferent_turnAll _ _ _)) fun _ =>
      indifferent_pure _
  | resume =>
    exact indifferent_bind (indifferent_requiring (indifferent_turnAll _ _ _)) fun _ =>
      indifferent_pure _
  | stop => exact indifferent_bind indifferent_stop fun _ => indifferent_pure _
  | changeInstances stage target =>
    exact indifferent_bind (indifferent_changeInstances stage target) fun _ => indifferent_pure _
  | instanceIds stage =>
    exact indifferent_bind (indifferent_read fun _ _ => rfl) fun _ => indifferent_pure _

/-! ### Whole lives -/

def serveAll : List RunRequest → Operation (List RunAnswer)
  | [] => pure []
  | request :: rest => do
    let answer ← request.operation
    let answers ← serveAll rest
    pure (answer :: answers)

/-- A run is started, and serves these requests if there comes a run of it. -/
def life (requests : List RunRequest) : Operation (Outcome × List RunAnswer) := do
  match ← start with
  | .error e => pure (.error e, [])
  | .ok _ =>
    let answers ← serveAll requests
    pure (.ok (), answers)

theorem indifferent_serveAll (requests : List RunRequest) : Indifferent (serveAll requests) := by
  induction requests with
  | nil => exact indifferent_pure _
  | cons request rest ih =>
    exact indifferent_bind (indifferent_request request) fun _ =>
      indifferent_bind ih fun _ => indifferent_pure _

theorem indifferent_life (requests : List RunRequest) : Indifferent (life requests) := by
  refine indifferent_bind indifferent_start fun started => ?_
  cases started with
  | error e => exact indifferent_pure _
  | ok _ => exact indifferent_bind (indifferent_serveAll requests) fun _ => indifferent_pure _

end Operation

/-! ### Two enactments -/

section
variable {σ α : Type} {w w' : Surroundings σ} {limit : Option Nat} {h : Handle}

/-- The same call, and the same answer after the same time if it is a single one. -/
structure Matches (e e' : Exchange × Nat) : Prop where
  call : e'.1.call = e.1.call
  single : e.1.call.isFanOut = false → e' = e

theorem Surroundings.reply_alike (single : w'.single = w.single) (l n : Nat)
    (crew crew' : Handle → σ) (call : Call) :
    (w.reply (some l) n crew call = none ∧ w'.reply (some l) n crew' call = none) ∨
      ∃ r r', w.reply (some l) n crew call = some r ∧ w'.reply (some l) n crew' call = some r' ∧
        (call.isFanOut = false → r'.ms = r.ms ∧ r'.answer = r.answer) := by
  cases call with
  | bind groups | repartition group | start options =>
    rw [reply, reply, single]
    cases w.single n _ with
    | none => exact .inl ⟨rfl, rfl⟩
    | some given => exact .inr ⟨_, _, rfl, rfl, fun _ => ⟨rfl, rfl⟩⟩
  | fanOut op targets =>
    have fans (single : (Call.fanOut op targets).isFanOut = false) : False := by cases single
    obtain ⟨r, replied⟩ := Option.isSome_iff_exists.mp
      (w.reply_isSome (n := n) l crew fun single => (fans single).elim)
    obtain ⟨r', replied'⟩ := Option.isSome_iff_exists.mp
      (w'.reply_isSome (n := n) l crew' fun single => (fans single).elim)
    exact .inr ⟨r, r', replied, replied', fun single => (fans single).elim⟩

theorem enact_alike {a a' : Activity α} (single : w'.single = w.single) (alike : a.Alike a')
    (l n : Nat) (crew crew' : Handle → σ) :
    List.Forall₂ Matches (a.enact w (some l) n crew).timed (a'.enact w' (some l) n crew').timed ∧
      (a.enact w (some l) n crew).rest.Alike (a'.enact w' (some l) n crew').rest := by
  induction alike generalizing n crew crew' with
  | done counted x => exact ⟨.nil, .done counted x⟩
  | @waiting run run' counted call resume resume' next ih =>
    rw [Activity.enact, Activity.enact]
    rcases Surroundings.reply_alike single l n crew crew' call with
      ⟨mute, mute'⟩ | ⟨r, r', replied, replied', same⟩
    · rw [mute, mute']
      exact ⟨.nil, .waiting counted next⟩
    · rw [replied, replied']
      have later := ih r.answer r'.answer (fun single => (same single).2) (n + 1) r.crew r'.crew
      refine ⟨.cons ⟨rfl, ?_⟩ later.1, later.2⟩
      intro single
      obtain ⟨ms, answer⟩ := same single
      simp only [ms, answer]

theorem encounters_of_matches {timed timed' : List (Exchange × Nat)}
    (matched : List.Forall₂ Matches timed timed') :
    encounters h (timed'.map (·.1)) = encounters h (timed.map (·.1)) := by
  induction matched with
  | nil => rfl
  | @cons e e' rest rest' first _ ih =>
    obtain ⟨⟨call, answer⟩, ms⟩ := e
    obtain ⟨⟨call', answer'⟩, ms'⟩ := e'
    have here : Exchange.encounters h ⟨call', answer'⟩ = Exchange.encounters h ⟨call, answer⟩ := by
      cases call with
      | bind groups | repartition group | start options =>
        cases first.single rfl
        rfl
      | fanOut op targets =>
        cases first.call
        rfl
    simp only [encounters] at ih
    simp only [encounters, List.map_cons, List.flatMap_cons, here, ih]

/-- The same, but that some requests are taken otherwise: they hang, say, or take their time. -/
def Surroundings.disturbed (w : Surroundings σ)
    (strikes : Handle → InstanceOp → σ → Option (Conduct σ)) : Surroundings σ :=
  { w with serve := fun h op mind => (strikes h op mind).getD (w.serve h op mind) }

def Surroundings.Spares (w : Surroundings σ)
    (strikes : Handle → InstanceOp → σ → Option (Conduct σ)) (limit : Option Nat) (h : Handle) :
    σ → List Encounter → Prop
  | _, [] => True
  | mind, met :: rest =>
    (∀ op, met = .asked op → strikes h op mind = none) ∧
      w.Spares strikes limit h (w.meet limit h mind met) rest

theorem Surroundings.meetAll_disturbed
    {strikes : Handle → InstanceOp → σ → Option (Conduct σ)} {mind : σ} {met : List Encounter}
    (spares : w.Spares strikes limit h mind met) :
    (w.disturbed strikes).meetAll limit h mind met = w.meetAll limit h mind met := by
  induction met generalizing mind with
  | nil => rfl
  | cons first rest ih =>
    obtain ⟨here, others⟩ := spares
    have same : (w.disturbed strikes).meet limit h mind first = w.meet limit h mind first := by
      cases first with
      | begun options => rfl
      | asked op => simp only [meet, disturbed, here op rfl, Option.getD_none]
    have later := ih others
    rw [meetAll] at later
    rw [meetAll, List.foldl_cons, same, later]
    rfl

/-- From the same beginning: once as it would be, and once with some requests taken otherwise. -/
structure Unharmed (w : Surroundings σ) (strikes : Handle → InstanceOp → σ → Option (Conduct σ))
    (l : Nat) (crew : Handle → σ) (e e' : Enactment σ α) : Prop where
  calls : List.Forall₂ Matches e.timed e'.timed
  rest : e.rest.Alike e'.rest
  spared : ∀ h, w.Spares strikes (some l) h (crew h) (encounters h e.log) → e'.crew h = e.crew h

theorem unharmed_of_indifferent {op : Operation α} (indifferent : op.Indifferent) (run : Run)
    (strikes : Handle → InstanceOp → σ → Option (Conduct σ)) (l n : Nat) (crew : Handle → σ) :
    Unharmed w strikes l crew ((op run).enact w (some l) n crew)
      ((op run).enact (w.disturbed strikes) (some l) n crew) := by
  have alike := indifferent run run run.recounted_refl
  have single : (w.disturbed strikes).single = w.single := rfl
  obtain ⟨calls, rest⟩ := enact_alike single alike l n crew crew
  refine ⟨calls, rest, ?_⟩
  intro h spares
  rw [enact_crew, enact_crew, Enactment.log, encounters_of_matches calls]
  exact Surroundings.meetAll_disturbed spares

/-! ### What instances cannot do -/

/-- It comes to its end or waits for a call of its own; besides those, it takes so long at most. -/
structure Enactment.Paced (e : Enactment σ α) (w : Surroundings σ) (n ms : Nat) : Prop where
  stops : e.rest.IsDone ∨ e.rest.Waits w (n + e.log.length)
  soon : e.ms ≤ ms + e.ownMs

theorem enact_paced {op : Operation α} {run : Run} {most : Nat}
    (few : ∀ log run' x, Returns op run log run' x → fanOuts log ≤ most) (l n : Nat)
    (crew : Handle → σ) : ((op run).enact w (some l) n crew).Paced w n (most * l) where
  stops := enact_stops l (op run) n crew
  soon := by
    rw [Enactment.ms_eq]
    exact Nat.add_le_add_right (enact_fanOutMs_le few l n crew) _

theorem asked_of_target {op : InstanceOp} {targets : List (StageKey × Handle)}
    {report : Report StageKey} {t : StageKey × Handle} (mem : t ∈ targets) :
    .asked op ∈ Exchange.encounters t.2 ⟨.fanOut op targets, report⟩ :=
  List.mem_map.mpr ⟨t, List.mem_filter.mpr ⟨mem, by simp⟩, rfl⟩

/-- What is known of a run whose fan-outs are given so many milliseconds. -/
structure Unstalled (w : Surroundings σ) (l : Nat) : Prop where
  suspends : ∀ run n crew, ((suspend run).enact w (some l) n crew).Within l
  resumes : ∀ run n crew, ((resume run).enact w (some l) n crew).Within l
  stops : ∀ run n crew, ((stop run).enact w (some l) n crew).Within l
  rescales : ∀ stage target run n crew,
    ((changeInstances stage target run).enact w (some l) n crew).Paced w n (4 * l)
  starts : ∀ run n crew, ((start run).enact w (some l) n crew).Paced w n l
  calls : ∀ requests run n crew op targets report ms,
    (⟨.fanOut op targets, report⟩, ms) ∈ ((life requests run).enact w (some l) n crew).timed →
    FannedOut l targets report ms ∧ ∀ t ∈ targets,
      .asked op ∈ encounters t.2 ((life requests run).enact w (some l) n crew).log
  lives : ∀ requests run n crew h, ((life requests run).enact w (some l) n crew).crew h =
    w.meetAll (some l) h (crew h) (encounters h ((life requests run).enact w (some l) n crew).log)
  unharmed : ∀ strikes requests run n crew, Unharmed w strikes l crew
    ((life requests run).enact w (some l) n crew)
    ((life requests run).enact (w.disturbed strikes) (some l) n crew)

/-- Whatever instances do and however long they take, and whichever of their requests are taken
otherwise than they would be. -/
theorem unstalled (w : Surroundings σ) (l : Nat) : Unstalled w l where
  suspends run n crew := enact_within (fun _ _ _ returned => isOneFanOut_turned returned) l n crew
  resumes run n crew := enact_within (fun _ _ _ returned => isOneFanOut_turned returned) l n crew
  stops run n crew := enact_within (fun _ _ _ returned => isOneFanOut_stop returned) l n crew
  rescales stage target run n crew :=
    enact_paced (fun _ _ _ returned => fanOuts_changeInstances returned) l n crew
  starts run n crew := by
    have paced : ((start run).enact w (some l) n crew).Paced w n (1 * l) :=
      enact_paced (fun _ _ _ returned => (returns_start returned).fanOuts_le) l n crew
    rwa [Nat.one_mul] at paced
  calls := by
    intro requests run n crew op targets report ms mem
    refine ⟨enact_fannedOut l _ n crew mem, ?_⟩
    intro t target
    exact List.mem_flatMap.mpr ⟨_, List.mem_map_of_mem mem, asked_of_target target⟩
  lives requests run n crew h := enact_crew _ n crew
  unharmed strikes requests run n crew :=
    unharmed_of_indifferent (indifferent_life requests) run strikes l n crew

end

/-! Local instances that do as they are asked at once, and a partitioner that takes five milliseconds.
The one instance that was started first never answers when it is to be suspended. -/

def willing : Surroundings LocalInstance where
  serve _ op i := ⟨.after 0 (i.handle op).2, (i.handle op).1, i⟩
  born _ options := ⟨options.key, .alive, options.instances⟩
  single n
    | .start _ => some (0, .ok n)
    | .bind _ => some (0, .ok ())
    | .repartition _ => some (5, .ok ())
    | .fanOut _ _ => none

def stubborn (h : Handle) (op : InstanceOp) (i : LocalInstance) : Option (Conduct LocalInstance) :=
  if h = 1 ∧ op = .suspend then some ⟨.never, i, i⟩ else none

def stubbornLife : Enactment LocalInstance (Outcome × List RunAnswer) :=
  (life [.changeInstances "stage" 2, .suspend] (.starting loneContext)).enact
    (willing.disturbed stubborn) (some 20) 0 fun _ => default

theorem stubborn_unstalled :
    (stubbornLife.ms = 45 ∧ (stubbornLife.crew 1).state = .alive ∧
      (stubbornLife.crew 6).state = .suspended) ∧
    Unstalled (willing.disturbed stubborn) 20 ∧ Unstalled willing 20 :=
  ⟨⟨rfl, rfl, rfl⟩, unstalled (willing.disturbed stubborn) 20, unstalled willing 20⟩

end FlowRuntime
