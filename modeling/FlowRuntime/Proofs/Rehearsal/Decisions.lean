import FlowRuntime.Proofs.Rehearsal.Solo
import FlowRuntime.Proofs.Run.Requests

/-!
Requests that change nothing, in rehearsals. We verify that a run between two requests
decides on each of them as it should, and that when a request that it waives is played,
nobody is called, the run and the partitioner stay as they are, and the answer is found.
-/
namespace FlowRuntime.Rehearsal
open Operation

structure Undisturbed (i : Interval) (request : RunRequest) (x : Outcome) : Prop where
  run : (i.play (.one (.turn request))).1.scene.run = i.scene.run
  partitioner : (i.play (.one (.turn request))).1.scene.world.partitioner =
    i.scene.world.partitioner
  calls : (i.play (.one (.turn request))).2.calls = []
  finding : (i.play (.one (.turn request))).2.finding = some (.outcome x)

theorem play_waived (i : Interval) {request : RunRequest} {x : Outcome}
    (free : i.scene.turn = none) (waived : Waived i.scene.run request x) :
    Undisturbed i request x := by
  obtain ⟨s, act, same, moment, begun⟩ := play_solo i request free
  have settled := aloof_settle s
  rcases moment.course with ⟨asks, _⟩ | ⟨log, b, leads, stands, here, calls, taken⟩
  · cases act <;> simp [Act.Asks, Act.form?] at asks begun
  have resumed : i.resume.run = i.scene.run := rfl
  rw [resumed, waived.done] at leads
  obtain ⟨rfl, rfl⟩ := Activity.leads_done_iff.mp leads
  cases stands
  exact {
    run := by
      rw [same]
      exact settled.run.trans here
    partitioner := by
      rw [same]
      exact settled.partitioner.trans taken
    calls := by
      rw [same]
      change s.settle.world.calls.reverse = []
      rw [settled.calls]
      change s.world.calls.reverse = []
      simp [calls, Activity.phases, Interval.resume]
    finding := by
      rw [same]
      rfl }

/-- A run between two requests turns away, for the first reason there is, what it cannot do, leaves
alone what is so already, and carries out all else. -/
theorem requests_decided {program : Program} {options : RunOptions} {c : RunContext}
    {before : List Exchange} {run : Run} (made : RunContext.ofProgram program options = .ok c)
    (reached : Reached c before run) :
    Decided run ∧ ∀ i : Interval, i.scene.turn = none → i.scene.run = run →
      ∀ request x, Waived run request x → Undisturbed i request x := by
  constructor
  · exact decided_of_settled (reached_sound made reached).settled
  · intro i free same request x waived
    exact play_waived i free (same ▸ waived)

/-- The one instance that there is need not be started again, and the run is not suspended. -/
theorem lone_decided :
    (RunRequest.changeInstances "stage" 1).operation loneRun = .done loneRun (.outcome (.ok ())) ∧
      RunRequest.resume.operation loneRun =
        .done loneRun (.outcome (.error (.wrongState .resume .alive))) ∧
      Decided loneRun := by
  have decided := (requests_decided lone_made lone_reached).1
  refine ⟨?_, ?_, decided⟩
  · exact decided.waived _ _ (.unchanged rfl (by decide) (by decide) (by decide))
  · exact decided.waived _ _ (.resume (by decide))

end FlowRuntime.Rehearsal
