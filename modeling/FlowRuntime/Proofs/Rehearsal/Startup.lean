import FlowRuntime.Proofs.Rehearsal.Hearing
import FlowRuntime.Proofs.Rehearsal.Ownership
import FlowRuntime.Proofs.Run.Startup

/-!
Starts as they are rehearsed. What a plan's start has called for are the calls of a course of
it, and as nobody listens before it is over, a start that comes to nothing leaves nothing
behind: nobody has heard of it, and nothing has been written.
-/
namespace FlowRuntime.Rehearsal
open Operation

section
variable {c : RunContext} {log : List Exchange} {run : Run} {x : Outcome} {p : Plan}
  {before s : Scene}

theorem audience_of_starting {calm : Prop} {s₀ : Scene} {b : Activity Outcome} {fate : Option Fate}
    (blank : Blank calm c s₀)
    (course : Staged calm (Operation.start (.starting c)) s₀ log b fate before) :
    before.audience = s₀.audience ∧ b.Unfolds before.run := by
  have unfolds : (Operation.start (.starting c)).Unfolds s₀.run := by
    rw [blank.run]
    exact unfolds_start _
  obtain ⟨news, hears, _, _, _, onward⟩ := course.told unfolds
  exact ⟨hears.of_nobody blank.unheard, onward⟩

theorem audience_of_started {calm : Prop} {s₀ : Scene} (blank : Blank calm c s₀)
    (course : Staged calm (Operation.start (.starting c)) s₀ log (.done run x) none before)
    (reordered : Reordered (before.see run) s) : s.audience = s₀.audience := by
  obtain ⟨unheard, onward⟩ := audience_of_starting blank course
  obtain ⟨more, seen, _⟩ := hears_onward onward
  rw [(Unheard.ofReordered reordered).audience, ← unheard]
  exact seen.of_nobody (by rw [unheard, blank.unheard])

theorem aloof_listenAll (p : Plan) (s : Scene) : Aloof s (p.listenAll s) :=
  (Aloof.listen s _).trans (.foldl (fun s _ => .listen s _) _ p.listeners)

theorem Plan.account_start (accepted : c.flow.Accepted) (found : (p.start c).2.finding.isSome) :
    ∃ x log run s, (p.start c).2.finding = some (.outcome x) ∧
      Staged False (Operation.start (.starting c)) (p.opening c) log (.done run x) none s ∧
      (p.start c).2.calls = callsOf log ∧ (p.start c).2.state = run.state ∧
      (x ≠ .ok () → (p.start c).1.scene.audience = (p.opening c).audience ∧
        (p.start c).2.writes = []) := by
  obtain ⟨finding, found⟩ := Option.isSome_iff_exists.mp found
  obtain ⟨log, run, x, before, s, rfl, course, reordered, _, closed⟩ :=
    Plan.played_start accepted False.elim found
  have seen : Aloof { before with run := run } s := (Aloof.see before run).trans (.ofReordered reordered)
  have listened : Aloof s (p.listened s x) := by
    cases x with
    | ok _ => exact aloof_listenAll p s
    | error e => exact .refl s
  have silent (failed : x ≠ .ok ()) : (p.listened s x).audience = (p.opening c).audience := by
    cases x with
    | ok _ => exact absurd rfl failed
    | error e =>
      exact audience_of_started (blank_opening p c False.elim) course reordered
  generalize p.listened s x = s' at listened silent closed
  have settled : Aloof s'.leave s'.settle := aloof_settle s'
  have calls : s'.settle.world.calls = before.world.calls :=
    settled.calls.trans (listened.calls.trans seen.calls)
  refine ⟨x, log, run, before, found, course, ?_, ?_, ?_⟩
  · rw [closed]
    change s'.settle.world.calls.reverse = _
    rw [calls, course.calls]
    simp [pendingCalls, Plan.opening, World.empty]
  · rw [closed]
    change s'.settle.run.state = _
    rw [settled.run.trans (listened.run.trans seen.run)]
  · intro failed
    have unheard : s'.settle.audience = (p.opening c).audience := by
      rw [(lull_settle s').hears.of_nobody (by rw [silent failed]; rfl), silent failed]
    rw [closed]
    refine ⟨unheard, ?_⟩
    change s'.settle.audience.ledger.log = []
    rw [unheard]
    rfl

/-- A start comes to a run if the program can be started and everything it asks for is granted.
If not, whoever was started has been told to stop, and nobody has heard of the run. -/
theorem startup_all_or_nothing :
    (∀ program options flow, Startable program flow → ∀ log run x,
      Returns Operation.start (.starting (.ofFlow program options flow)) log run x →
      AllOrNothing (.ofFlow program options flow) log run x) ∧
    ∀ p : Plan, p.perform.start.finding.isSome →
      ∃ x, p.perform.start.finding = some (.outcome x) ∧
        ((∀ flow, ¬ Startable p.program flow) → x ≠ .ok () ∧ p.perform.start.calls = []) ∧
        (∀ flow, Startable p.program flow → ∃ log run s,
          Staged False (Operation.start (.starting (.ofFlow p.program p.options flow)))
            (p.opening (.ofFlow p.program p.options flow)) log (.done run x) none s ∧
          AllOrNothing (.ofFlow p.program p.options flow) log run x ∧
          p.perform.start.calls = callsOf log ∧ p.perform.start.state = run.state) ∧
        (x ≠ .ok () → p.perform.start.state = .starting ∧ p.perform.start.writes = [] ∧
          p.perform.listeners = [] ∧ p.perform.ending = p.store) := by
  have accepted {program : Program} {options : RunOptions} {flow : FlowSpec}
      (startable : Startable program flow) : (RunContext.ofFlow program options flow).flow.Accepted :=
    RunContext.accepted_of_ofProgram (startable.made options)
  refine ⟨fun program options flow startable log run x returned =>
    allOrNothing_of_returns (accepted startable) returned, fun p returned => ?_⟩
  cases made : RunContext.ofProgram p.program p.options with
  | error e =>
    have performed : p.perform = ⟨Plan.refused e, [], [], p.store, false⟩ := by
      rw [Plan.perform, made]
    rw [performed]
    refine ⟨.error e, rfl, fun _ => ⟨by simp, rfl⟩, fun flow startable => ?_, fun _ => ⟨rfl, rfl, rfl, rfl⟩⟩
    rw [startable.made p.options] at made
    cases made
  | ok c =>
    obtain ⟨flow, startable, rfl⟩ := RunContext.ofProgram_ok_iff.mp made
    have started : p.perform.start = (p.start (.ofFlow p.program p.options flow)).2 := by
      rw [Plan.perform, made]
    rw [started] at returned ⊢
    obtain ⟨x, log, run, s, found, course, calls, state, silent⟩ :=
      Plan.account_start (accepted startable) returned
    have whole := allOrNothing_of_returns (accepted startable) course.leads
    refine ⟨x, found, fun unready => absurd startable (unready flow), fun flow' startable' => ?_,
      fun failed => ?_⟩
    · have same : flow' = flow := by
        have both := startable'.declared.symm.trans startable.declared
        exact Option.some.inj both
      subst same
      exact ⟨log, run, s, course, whole, calls, state⟩
    · obtain ⟨unheard, unwritten⟩ := silent failed
      have listeners : p.perform.listeners = [] ∧ p.perform.ending = p.store := by
        cases x with
        | ok _ => exact absurd rfl failed
        | error e =>
          simp only [Plan.perform, made]
          rw [found]
          dsimp only
          rw [unheard]
          exact ⟨rfl, rfl⟩
      exact ⟨state.trans (whole.untouched failed).1, unwritten, listeners⟩

end

/-! A stage of two instances, of which the second fails to start and the first then cannot be reached. -/

def crampedPlan : Plan :=
  { strayPlan with
    faults := [⟨.start, some "stage", some 1, ⟨some 0, some "no room"⟩, none⟩,
      ⟨.stop, none, none, ⟨some 0, some "unreachable"⟩, none⟩] }

theorem cramped_startable : Startable crampedPlan.program pairFlow := ⟨rfl, rfl, rfl⟩

theorem cramped_returned : crampedPlan.perform.start.finding.isSome := by decide +kernel

example : crampedPlan.perform.start.calls =
    [.bind pairContext.consumerGroups, .start (pairContext.instanceOptions pairStage 0 2),
      .start (pairContext.instanceOptions pairStage 1 2), .request .stop ⟨"stage", 0⟩] := by
  decide +kernel

theorem cramped_withdrawn :
    Startable crampedPlan.program pairFlow ∧ crampedPlan.perform.start.finding.isSome ∧
      AllOrNothing loneContext loneLog loneRun (.ok ()) ∧
      ∃ x log run, crampedPlan.perform.start.finding = some (.outcome x) ∧
        AllOrNothing pairContext log run x ∧ crampedPlan.perform.start.calls = callsOf log := by
  have lone : Returns Operation.start (.starting loneContext) loneLog loneRun (.ok ()) :=
    .next _ (.next _ (.here _))
  obtain ⟨x, found, _, started, _⟩ := startup_all_or_nothing.2 crampedPlan cramped_returned
  obtain ⟨log, run, s, _, whole, calls, _⟩ := started pairFlow cramped_startable
  exact ⟨cramped_startable, cramped_returned,
    startup_all_or_nothing.1 loneProgram loneOptions loneFlow ⟨rfl, rfl, rfl⟩ _ _ _ lone,
    x, log, run, found, whole, calls⟩

end FlowRuntime.Rehearsal
