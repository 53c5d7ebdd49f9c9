import FlowRuntime.Proofs.Run.Enacted
import FlowRuntime.Proofs.Run.Requests

/-!
What a run's metrics say of it. They are counted where something happens: those who did not follow
in the fan-outs, the rescales where they begin and where they fail, and the instances of the
stages whenever counts are published. We verify that after every request, whatever was asked for
before and whoever failed or was late, the metrics account for just what has happened, and that
a start which is taken back leaves nothing counted but those who did not stop.
-/
namespace FlowRuntime
open Operation

/-! ## Those who did not follow -/

/-- Whether an instance fails at what it is asked: it says so in time, or is not ready in time. -/
def Arrival.fails (limit : Option Nat) (a : Arrival) : Bool :=
  if a.readyAt.any (FanOut.inTime waitFor limit a) then !a.outcome.isOk else true

namespace FanOut
variable {κ : Type} {limit : Option Nat}

theorem settle_fails {a : Arrival} {t : Nat} {outcome : Except Failure Unit}
    (settled : settle waitFor limit a = some (t, outcome)) : a.fails limit = !outcome.isOk := by
  have given {t : Nat} {outcome : Except Failure Unit}
      (late : (limit.map fun l => (waitFor l, (.error (.timedOut l) : Except Failure Unit))) =
        some (t, outcome)) : outcome.isOk = false := by
    obtain ⟨l, _, same⟩ := Option.map_eq_some_iff.mp late
    cases same
    rfl
  unfold settle at settled
  unfold Arrival.fails
  split at settled
  · rename_i never
    simp [never, given settled]
  · rename_i ready at_time
    split at settled
    · rename_i soon
      cases settled
      simp [at_time, soon]
    · rename_i late
      simp [at_time, late, given settled]

theorem settleAll_failed {items : List (κ × Arrival)} {settled : List (κ × Nat × Except Failure Unit)}
    (all : settleAll waitFor limit items = some settled) :
    (report (settled.map fun s => (s.1, s.2.2))).failed.map (·.1) =
      (items.filter (·.2.fails limit)).map (·.1) := by
  induction items generalizing settled with
  | nil =>
    cases all
    rfl
  | cons item rest ih =>
    obtain ⟨key, a⟩ := item
    rw [settleAll] at all
    split at all
    · rename_i first others here later
      cases all
      obtain ⟨t, outcome⟩ := first
      have fails := settle_fails here
      have onward := ih later
      rw [List.map_cons, ← List.singleton_append, report_append, List.filter_cons]
      cases outcome with
      | ok _ =>
        have sound : a.fails limit = false := fails
        simpa [report, sound] using onward
      | error e =>
        have failed : a.fails limit = true := fails
        simpa [report, failed] using onward
    · cases all

theorem bestEffort_failed {items : List (κ × Arrival)} {r : Report κ} {ms : Nat}
    (returned : bestEffort limit items = some (r, ms)) :
    r.failed.map (·.1) = (items.filter (·.2.fails limit)).map (·.1) := by
  obtain ⟨settled, all, same⟩ := Option.map_eq_some_iff.mp returned
  cases same
  exact settleAll_failed all

end FanOut

/-- What a fan-out asked of an instance, and when that was ready with it. -/
structure Demand where
  op : InstanceOp
  key : StageKey
  arrival : Arrival

def Demand.call (d : Demand) : Rehearsal.LoggedCall := .request d.op d.key

def Demand.fails (limit : Option Nat) (d : Demand) : Bool := d.arrival.fails limit

/-- How all fared whom the fan-outs asked for something: each fan-out reports what its time limit makes
of them. -/
inductive Fared (limit : Option Nat) : List Exchange → List Demand → Prop where
  | none : Fared limit [] []
  | single {call : Call} (answer : call.Answer) (alone : call.isFanOut = false)
      {log : List Exchange} {demands : List Demand} (later : Fared limit log demands) :
      Fared limit (⟨call, answer⟩ :: log) demands
  | fanOut (op : InstanceOp) {targets : List (StageKey × Handle)}
      {items : List (StageKey × Arrival)} {report : Report StageKey} {ms : Nat}
      (asked : items.map (·.1) = targets.map (·.1))
      (returned : FanOut.bestEffort limit items = some (report, ms))
      {log : List Exchange} {demands : List Demand} (later : Fared limit log demands) :
      Fared limit (⟨.fanOut op targets, report⟩ :: log)
        (items.map (fun i => ⟨op, i.1, i.2⟩) ++ demands)

def Rehearsal.LoggedCall.isRequest : Rehearsal.LoggedCall → Bool
  | .request _ _ => true
  | _ => false

namespace Fared
variable {limit : Option Nat} {log : List Exchange} {demands : List Demand}

theorem calls (fared : Fared limit log demands) :
    demands.map Demand.call = (callsOf log).filter (·.isRequest) := by
  induction fared with
  | none => rfl
  | @single call answer alone log demands later ih =>
    cases call with
    | bind groups | repartition group | start options => exact ih
    | fanOut op targets => cases alone
  | @fanOut op targets items report ms asked returned log demands later ih =>
    have requests (keys : List StageKey) :
        (keys.map fun key => Rehearsal.LoggedCall.request op key).filter (·.isRequest) =
          keys.map (.request op) := by
      rw [List.filter_eq_self]
      intro call mem
      obtain ⟨key, _, rfl⟩ := List.mem_map.mp mem
      rfl
    have here : (Call.fanOut op targets).logged = (items.map (·.1)).map (.request op) := by
      rw [asked, List.map_map]
      rfl
    rw [callsOf_cons, List.filter_append, ← ih, here, requests, List.map_append, List.map_map,
      List.map_map]
    rfl

theorem missed_eq (fared : Fared limit log demands) : missed log = demands.countP (·.fails limit) := by
  induction fared with
  | none => rfl
  | @single call answer alone log demands later ih =>
    cases call with
    | bind groups | repartition group | start options => simpa [missed, Exchange.missed] using ih
    | fanOut op targets => cases alone
  | @fanOut op targets items report ms asked returned log demands later ih =>
    have failed := congrArg List.length (FanOut.bestEffort_failed returned)
    rw [List.length_map, List.length_map, ← List.countP_eq_length_filter] at failed
    rw [missed, ih, List.countP_append, List.countP_map]
    exact congrArg (· + _) failed

end Fared

theorem exists_fared {σ α : Type} (w : Surroundings σ) (limit : Option Nat) (a : Activity α) (n : Nat)
    (crew : Handle → σ) : ∃ demands, Fared limit (a.enact w limit n crew).log demands := by
  induction a generalizing n crew with
  | done run x => exact ⟨[], .none⟩
  | waiting run call resume ih =>
    rw [Activity.enact]
    cases replied : w.reply limit n crew call with
    | none => exact ⟨[], .none⟩
    | some r =>
      obtain ⟨demands, later⟩ := ih r.answer (n + 1) r.crew
      cases call with
      | bind groups | repartition group | start options => exact ⟨demands, .single r.answer rfl later⟩
      | fanOut op targets =>
        obtain ⟨given, returned, same⟩ := Option.map_eq_some_iff.mp replied
        cases same
        exact ⟨_, .fanOut op (Surroundings.askAll_keys op targets crew) returned later⟩

/-! ## One request -/

/-- Whether a request is one for another number of instances that the run has to work for. -/
def RunRequest.isDue (run : Run) : RunRequest → Bool
  | .changeInstances stage target =>
    run.state = .alive ∧ target ≠ 0 ∧ stage ∈ run.context.flow.stageNames ∧
      Registry.liveCount run.registry stage ≠ target
  | _ => false

section
variable {c : RunContext} {run run' : Run} {request : RunRequest} {log : List Exchange}
  {answer : RunAnswer} {x : Outcome}

theorem isDue_of_due {stage : String} {target : Nat} {spec : StageSpec}
    (due : Due run stage target spec) : (RunRequest.changeInstances stage target).isDue run = true := by
  have named := FlowSpec.name_of_stage? due.found
  have declared : stage ∈ run.context.flow.stageNames :=
    named ▸ List.mem_map_of_mem (FlowSpec.mem_of_stage? due.found)
  simp [RunRequest.isDue, due.alive, due.some_instances, declared, due.differs]

theorem Waived.not_isDue (waived : Waived run request x) : request.isDue run = false := by
  cases waived with
  | suspend | resume | stop | stopped => rfl
  | rescale unready => simp [RunRequest.isDue, unready]
  | noInstances alive => simp [RunRequest.isDue]
  | unknownStage alive some_instances undeclared => simp [RunRequest.isDue, undeclared]
  | unchanged alive some_instances declared same => simp [RunRequest.isDue, same]

theorem Dealt.opFailures (dealt : Dealt run request log run' answer) :
    run'.metrics.opFailures = run.metrics.opFailures + missed log := by
  cases dealt with
  | waived waived idle same => simp [idle, same, missed]
  | listed asked idle same => simp [idle, same, missed]
  | carried carried =>
    cases carried with
    | suspended alive report | resumed suspended report | stopped going report =>
      simp [Run.transition, Run.countOpFailures, Run.woundDown, Run.publish, Run.releaseAll, missed,
        Exchange.missed]
    | rescaled due course =>
      cases course with
      | complete work => rfl
      | failed work report =>
        simp [missed_append, missed, Exchange.missed, Run.transition, Run.countOpFailures,
          Run.woundDown, Run.publish, Run.releaseAll, Run.reshaped, Run.countRescale,
          Run.countRescaleFailure, Nat.add_assoc]

theorem Dealt.rescales (dealt : Dealt run request log run' answer) :
    run'.metrics.rescales = run.metrics.rescales + (request.isDue run).toNat := by
  cases dealt with
  | waived waived idle same => simp [same, waived.not_isDue]
  | listed asked idle same => simp [same, asked, RunRequest.isDue]
  | carried carried =>
    cases carried with
    | suspended alive report | resumed suspended report | stopped going report => rfl
    | rescaled due course =>
      rw [isDue_of_due due]
      cases course with
      | complete work => rfl
      | failed work report => rfl

theorem Dealt.rescaleFailures (dealt : Dealt run request log run' answer)
    (told : run.metrics.rescaleFailures = if run.state = .error then 1 else 0) :
    run'.metrics.rescaleFailures = if run'.state = .error then 1 else 0 := by
  cases dealt with
  | waived waived idle same => exact same ▸ told
  | listed asked idle same => exact same ▸ told
  | carried carried =>
    cases carried with
    | suspended alive report =>
      rw [if_neg (by simp [alive])] at told
      exact told
    | resumed suspended report =>
      rw [if_neg (by simp [suspended])] at told
      exact told
    | stopped going report =>
      rw [if_neg (by rcases going with here | here <;> simp [here])] at told
      exact told
    | rescaled due course =>
      rw [if_neg (by simp [due.alive])] at told
      cases course with
      | @complete log registry work =>
        have alive : (run.reshaped registry (missed log)).state = .alive := due.alive
        rw [if_neg (by simp [alive])]
        exact told
      | failed work report => exact congrArg (· + 1) told

def Run.Gauged (run : Run) : Prop := ∀ s ∈ run.context.flow.stages,
  run.metrics.stageInstances.get? s.name = some (Registry.liveCount run.registry s.name)

theorem gauged_publish (run : Run) : run.publish.Gauged := by
  intro s mem
  have listed : s.name ∈ run.context.flow.stages.map (·.name) := List.mem_map_of_mem mem
  simp only [Run.publish, Registry.getD_counts]
  rw [SortedMap.get?_foldl_insert StageSpec.name (Registry.liveCount run.registry), if_pos listed]

theorem gauged_over (run : Run) (missed : Nat) (final : RunState) (cause : Option String) :
    ((run.woundDown missed).transition final cause).Gauged :=
  gauged_publish ((run.transition .stopping none).releaseAll.countOpFailures missed)

theorem gauged_reshaped (run : Run) (registry : Registry Handle) (missed : Nat) :
    (run.reshaped registry missed).Gauged := by
  unfold Run.reshaped
  exact gauged_publish _

theorem Dealt.gauged (dealt : Dealt run request log run' answer) (gauged : run.Gauged) :
    run'.Gauged := by
  cases dealt with
  | waived waived idle same => exact same ▸ gauged
  | listed asked idle same => exact same ▸ gauged
  | carried carried =>
    cases carried with
    | suspended alive report | resumed suspended report => exact gauged
    | stopped going report => exact gauged_over _ _ _ _
    | rescaled due course =>
      cases course with
      | complete work => exact gauged_reshaped _ _ _
      | failed work report => exact gauged_over _ _ _ _

end

/-! ## A whole run -/

structure Visit where
  found : Run
  service : Service

def Visit.isRescale (v : Visit) : Bool := v.service.request.isDue v.found

inductive Visits : Run → List Visit → Run → Prop where
  | none (run : Run) : Visits run [] run
  | next {run run' last : Run} {service : Service} {rest : List Visit}
      (returned : Returns service.request.operation run service.log run' service.answer)
      (later : Visits run' rest last) : Visits run (⟨run, service⟩ :: rest) last

section
variable {c : RunContext} {run first last : Run} {visits : List Visit} {log : List Exchange}

theorem Visits.serves (took : Visits first visits last) :
    Serves first (visits.map (·.service)) last := by
  induction took with
  | none run => exact .none run
  | next returned later ih => exact .next returned ih

theorem Serves.exists_visits {series : List Service} (serves : Serves first series last) :
    ∃ visits, Visits first visits last ∧ visits.map (·.service) = series := by
  induction serves with
  | none run => exact ⟨[], .none run, rfl⟩
  | next returned later ih =>
    obtain ⟨visits, took, same⟩ := ih
    exact ⟨_, .next returned took, by simp [same]⟩

def exchangedIn (visits : List Visit) : List Exchange := visits.flatMap (·.service.log)

/-- What the metrics say of a run, with all that was asked of it and of its instances. -/
structure Tallied (limit : Option Nat) (run : Run) (visits : List Visit) (log : List Exchange)
    (demands : List Demand) : Prop where
  gauges : ∀ s ∈ run.context.flow.stages,
    run.metrics.stageInstances.get? s.name = some (Registry.liveCount run.registry s.name)
  emptied : run.state = .stopped ∨ run.state = .error →
    ∀ s ∈ run.context.flow.stages, run.metrics.stageInstances.get? s.name = some 0
  rescales : run.metrics.rescales = visits.countP (·.isRescale)
  rescaleFailures : run.metrics.rescaleFailures = if run.state = .error then 1 else 0
  opFailures : run.metrics.opFailures = demands.countP (·.fails limit)
  demands : demands.map Demand.call = (callsOf log).filter (·.isRequest)

/-- How the metrics of a run stand, from what was exchanged and visited before. -/
structure Counted (run : Run) (rescales missed : Nat) : Prop where
  gauged : run.Gauged
  rescales : run.metrics.rescales = rescales
  rescaleFailures : run.metrics.rescaleFailures = if run.state = .error then 1 else 0
  opFailures : run.metrics.opFailures = missed

theorem counted_start (returned : Returns start (.starting c) log run (.ok ())) :
    Counted run 0 (missed log) := by
  generalize same : (Except.ok () : Outcome) = x at returned
  cases returns_start returned with
  | unbound e => cases same
  | withdrawn started report => cases same
  | @complete log begun started =>
    exact {
      gauged := gauged_publish ((Run.starting c).holdAll begun)
      rescales := rfl
      rescaleFailures := rfl
      opFailures := by
        rw [missed, started_missed started]
        rfl }

theorem counted_step {run' : Run} {request : RunRequest} {log' : List Exchange} {answer : RunAnswer}
    {rescales before : Nat} (counted : Counted run rescales before)
    (dealt : Dealt run request log' run' answer) :
    Counted run' (rescales + (request.isDue run).toNat) (before + missed log') where
  gauged := dealt.gauged counted.gauged
  rescales := by rw [dealt.rescales, counted.rescales]
  rescaleFailures := dealt.rescaleFailures counted.rescaleFailures
  opFailures := by rw [dealt.opFailures, counted.opFailures]

theorem counted_visits (accepted : c.flow.Accepted) (reached : Reached c log first)
    {rescales before : Nat} (counted : Counted first rescales before)
    (took : Visits first visits last) :
    Counted last (rescales + visits.countP (·.isRescale)) (before + missed (exchangedIn visits)) := by
  induction took generalizing log rescales before with
  | none run => exact counted
  | @next run run' last service rest returned later ih =>
    have settled : Settled run := (sound_of_accepted accepted reached).settled
    have onward := ih (reached.answered returned) (counted_step counted (dealt_request settled returned))
    have visited : (⟨run, service⟩ :: rest : List Visit).countP (·.isRescale) =
        (service.request.isDue run).toNat + rest.countP (·.isRescale) := by
      rw [List.countP_cons, Nat.add_comm]
      cases due : service.request.isDue run <;> simp [Visit.isRescale, due]
    rw [visited, exchangedIn, List.flatMap_cons, missed_append, ← Nat.add_assoc, ← Nat.add_assoc]
    exact onward

theorem metrics_of_failed_start {e : Failure}
    (returned : Returns start (.starting c) log run (.error e)) :
    run.metrics = ⟨.empty, 0, 0, missed log⟩ := by
  generalize same : (Except.error e : Outcome) = x at returned
  cases returns_start returned with
  | unbound e => rfl
  | complete started => cases same
  | @withdrawn log begun e started report =>
    rw [missed_append, missed, started_missed started]
    simp [Run.countOpFailures, Run.releaseAll, Run.starting, Metrics.zero, missed, Exchange.missed]

/-- The metrics account for the run: of a start that is taken back, and after any requests to one that
is not, whoever had failed or was late by any time limit. -/
theorem metrics_tallied {program : Program} {options : RunOptions}
    (made : RunContext.ofProgram program options = .ok c) (limit : Option Nat) :
    (∀ log run e demands, Returns start (.starting c) log run (.error e) →
      Fared limit log demands →
      run.metrics = ⟨.empty, 0, 0, demands.countP (·.fails limit)⟩ ∧
        demands.map Demand.call = (callsOf log).filter (·.isRequest)) ∧
    ∀ log first visits last demands, Returns start (.starting c) log first (.ok ()) →
      Visits first visits last → Fared limit (log ++ exchangedIn visits) demands →
      last.context = c ∧ Tallied limit last visits (log ++ exchangedIn visits) demands := by
  have accepted := RunContext.accepted_of_ofProgram made
  constructor
  · intro log run e demands returned fared
    exact ⟨by rw [metrics_of_failed_start returned, fared.missed_eq], fared.calls⟩
  · intro log first visits last demands returned took fared
    have reached : Reached c log first := .started returned
    have sound := sound_of_accepted accepted (took.serves.reached reached)
    have counted := counted_visits accepted reached (counted_start returned) took
    rw [Nat.zero_add, ← missed_append, fared.missed_eq] at counted
    exact ⟨sound.context, {
      gauges := counted.gauged
      emptied := by
        intro ended s mem
        rw [counted.gauged s mem, sound.emptied ended]
        rfl
      rescales := counted.rescales
      rescaleFailures := counted.rescaleFailures
      opFailures := counted.opFailures
      demands := fared.calls }⟩

/-! The stage of the one instance grows, though the instance fails to be suspended. -/

def loneVisits : List Visit := [⟨loneRun, .changeInstances "stage" 2, loneGrowth, .outcome (.ok ())⟩]

def loneDemands : List Demand :=
  [⟨.suspend, ⟨"stage", 0⟩, .after 5 (.error .instanceGone)⟩,
    ⟨.command 2, ⟨"stage", 0⟩, .after 5 (.ok ())⟩, ⟨.resume, ⟨"stage", 0⟩, .after 5 (.ok ())⟩]

theorem lone_visits : Visits loneRun loneVisits loneGrown :=
  .next (.next _ (.next _ (.next _ (.next _ (.next _ (.here _)))))) (.none loneGrown)

theorem lone_reported (outcome : Except Failure Unit) :
    FanOut.bestEffort (some 20) [(⟨"stage", 0⟩, .after 5 outcome)] =
      some (FanOut.report [((⟨"stage", 0⟩ : StageKey), outcome)], 5) := rfl

theorem lone_fared : Fared (some 20) (loneLog ++ exchangedIn loneVisits) loneDemands := by
  refine .single _ rfl (.single _ rfl ?_)
  refine .fanOut .suspend ?_ (lone_reported (.error .instanceGone)) (.single _ rfl ?_)
  · rfl
  refine .fanOut (.command 2) ?_ (lone_reported (.ok ())) ?_
  · rfl
  refine .fanOut .resume ?_ (lone_reported (.ok ())) (.single _ rfl .none)
  rfl

/-! A start of two instances is taken back, as the second is refused; the first is never ready with its stop. -/

def coupleProgram : Program :=
  ⟨loneProgram.id, ⟨"default", "app", [⟨"flow", [⟨"stage", 2, .empty⟩], []⟩]⟩⟩

def coupleContext : RunContext :=
  ⟨⟨loneProgram.id, loneOptions.runId⟩, ⟨"flow", [⟨"stage", 2, .empty⟩], []⟩, loneOptions⟩

def coupleLog : List Exchange :=
  [⟨.bind coupleContext.consumerGroups, .ok ()⟩,
    ⟨.start (coupleContext.instanceOptions ⟨"stage", 2, .empty⟩ 0 2), .ok (0 : Handle)⟩,
    ⟨.start (coupleContext.instanceOptions ⟨"stage", 2, .empty⟩ 1 2), .error .instanceGone⟩,
    ⟨.fanOut .stop loneTargets, ⟨[], [(⟨"stage", 0⟩, .timedOut 20)]⟩⟩]

def coupleDemands : List Demand := [⟨.stop, ⟨"stage", 0⟩, .never⟩]

theorem couple_withdrawn : ∃ run e, Returns start (.starting coupleContext) coupleLog run (.error e) :=
  ⟨_, _, .next _ (.next _ (.next _ (.next _ (.here _))))⟩

theorem couple_fared : Fared (some 20) coupleLog coupleDemands := by
  refine .single _ rfl (.single _ rfl (.single _ rfl ?_))
  have waited : FanOut.bestEffort (some 20) [((⟨"stage", 0⟩ : StageKey), .never)] =
    some (⟨[], [(⟨"stage", 0⟩, .timedOut 20)]⟩, 20) := rfl
  refine .fanOut .stop ?_ waited .none
  rfl

theorem growth_and_withdrawal_tallied :
    (RunContext.ofProgram loneProgram loneOptions = .ok loneContext ∧
      Visits loneRun loneVisits loneGrown ∧
      Fared (some 20) (loneLog ++ exchangedIn loneVisits) loneDemands ∧
      Tallied (some 20) loneGrown loneVisits (loneLog ++ exchangedIn loneVisits) loneDemands) ∧
    RunContext.ofProgram coupleProgram loneOptions = .ok coupleContext ∧
      ∃ run e, Returns start (.starting coupleContext) coupleLog run (.error e) ∧
        run.metrics = ⟨.empty, 0, 0, 1⟩ := by
  constructor
  · refine ⟨lone_made, lone_visits, lone_fared, ?_⟩
    have started : Returns start (.starting loneContext) loneLog loneRun (.ok ()) :=
      .next _ (.next _ (.here _))
    exact ((metrics_tallied lone_made (some 20)).2 _ _ _ _ _ started lone_visits lone_fared).2
  · have made : RunContext.ofProgram coupleProgram loneOptions = .ok coupleContext := rfl
    obtain ⟨run, e, returned⟩ := couple_withdrawn
    exact ⟨made, run, e, returned, ((metrics_tallied made (some 20)).1 _ _ _ _ returned couple_fared).1⟩

end
end FlowRuntime
