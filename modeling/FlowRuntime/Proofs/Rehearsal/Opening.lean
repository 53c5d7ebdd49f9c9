import FlowRuntime.Proofs.Rehearsal.Playing
import FlowRuntime.Proofs.Rehearsal.Recess

/-!
The start of a run, whoever will listen to it. Nobody does before it is over, and so it begins
like a request in a scene between two steps, with the turn given to its part. We verify that it
takes the course that it takes with nobody else.
-/
namespace FlowRuntime.Rehearsal

open FlowRuntime.Rehearsal.Part

def Scene.begun (s : Scene) : Scene × Act :=
  settleCall (s.drive 0 ((Finding.outcome <$> Operation.start) s.run))

section
variable {p : Plan} {c : RunContext} {s : Scene} {calls : List (Nat × LoggedCall)}

theorem minds_startRun {run : Run} {held : List Handle} (within : run.Within held) :
    ((Finding.outcome <$> Operation.start) run).Minds Concludes held := by
  refine (Operation.minds_start within).bind fun held run outcome within' => ?_
  exact ⟨within', by simp [Finding.muted]⟩

theorem recess_opening (p : Plan) (c : RunContext) : Recess { p.opening c with turn := none } := by
  have nobody (handle : Handle) (r : Resident)
      (found : (p.opening c).world.residents[handle]? = some r) : False := by
    simp [Plan.opening, World.empty] at found
  refine ⟨⟨⟨?_, ?_, ?_, ?_⟩, ⟨?_, ?_⟩, ⟨[], ⟨?_, ?_⟩, ?_, ?_⟩, List.forall_mem_nil _⟩, rfl, rfl, rfl, rfl,
    rfl, rfl⟩
  · exact fun handle r found => (nobody handle r found).elim
  · exact fun handle r found => (nobody handle r found).elim
  · exact fun handle r found => (nobody handle r found).elim
  · exact fun handle _ r _ found => (nobody handle r found).elim
  · exact fun handle r found => (nobody handle r found).elim
  · exact fun handle r found => (nobody handle r found).elim
  · exact fun handle mem => absurd mem List.not_mem_nil
  · exact fun i within => absurd within (Nat.not_lt_zero i)
  · intro key handle found
    cases found
  · intro key key' handle found
    cases found

theorem poised_begun (p : Plan) (c : RunContext) :
    (p.opening c).hush.begun.2 = (p.opening c).begun.2.muted ∧
      Tandem (p.opening c).begun.1 (p.opening c).hush.begun.1 ∧
      (p.opening c).world.calls <:+ (p.opening c).begun.1.world.calls ∧
      ∃ acts seen, Poised (.solo 0 (p.opening c).begun.2) (p.opening c).begun.1 acts seen := by
  have recess := recess_opening p c
  -- the part of a step with the one request that a start is, before it has been come to
  obtain ⟨acts, poised⟩ := recess.poised (show (Step.one (.turn .stop)).IsMild from trivial)
  have role : acts 0 = .ahead 0 (.turn .stop) :=
    poised.onset.embodied (0, .ahead 0 (.turn .stop)) (by simp [ofStep, rolesOf, roles])
  obtain ⟨held, free, within⟩ := recess.free
  have opened : { { p.opening c with turn := none } with turn := some 0 }.unstir 0 = p.opening c := rfl
  have tandem : Tandem (p.opening c) (p.opening c).hush :=
    tandem_bare ⟨recess.orderly.going, recess.orderly.past, recess.orderly.posted, recess.orderly.single⟩
      ⟨recess.roused.mailed, recess.roused.called⟩ (not_awaits_of_none rfl)
  have spares := Spares.drive (p.opening c) 0 ((Finding.outcome <$> Operation.start) (p.opening c).run)
  have onset := poised.onset
  have mine : ∀ q ≠ 0, ({ p.opening c with turn := none } : Scene).turn ≠ some q := fun q _ => by simp
  obtain ⟨same, goes⟩ := onset.duet.settled mine List.not_mem_nil
    (opened ▸ spares)
    (alongside_drive _ tandem (free.same rfl rfl) (minds_startRun within)) (by rw [role]; rfl)
  have begins : ofStep 0 0 (.one (.turn .stop)) = .solo 0 (.ahead 0 (.turn .stop)) := by rw [ofStep]
  rw [begins] at poised onset
  have looks := Looks.own onset (by rw [roles, role]) goes
    (show roles (.solo 0 (p.opening c).begun.2) = _ by rw [roles]; rfl) (by rw [outline, outline])
    (by rw [IsSound]; trivial) (by rw [Part.present, Part.present]; exact List.Subset.refl _)
    (by rw [Part.present]; exact List.mem_singleton_self 0)
  refine ⟨same, goes.duet.tandem, goes.calls, _, _, looks.poised poised fun q mem => .inr ?_⟩
  rw [presentOf_singleton, Part.present] at mem
  exact List.mem_singleton.mp mem

end
end FlowRuntime.Rehearsal
