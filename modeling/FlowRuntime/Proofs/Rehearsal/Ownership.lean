import FlowRuntime.Proofs.Rehearsal.Playing

/-!
Who is alive in a place. A run holds one instance of a place at a time, and asks it to stop
before it has another one started there. We verify that at every moment of a rehearsal, of
all the instances that were ever started for a place only one is neither stopped nor known
to have missed its stop, and that after a stage has been given a smaller number, this is
true of none of those beyond it. An instance that missed its stop may well go on.
-/
namespace FlowRuntime.Rehearsal
open Operation

/-- When it was asked to stop, it was reported that it did not. -/
def Missed (log : List Exchange) (key : StageKey) (handle : Handle) : Prop :=
  ∃ targets report failure, (⟨.fanOut .stop targets, report⟩ : Exchange) ∈ log ∧
    (key, handle) ∈ targets ∧ (key, failure) ∈ report.failed

def Dismissed (log : List Exchange) (handle : Handle) (r : Resident) : Prop :=
  r.self.state = .stopped ∨ Missed log r.self.key handle

/-! ### Residents -/

section
variable {calm : Prop} {c : RunContext} {log : List Exchange} {w w' : World} {key : StageKey}
  {handle handle' : Handle} {r : Resident}

theorem World.AnswersAll.dismissed (answers : w.AnswersAll calm log w')
    (asked : .asked .stop handle ∈ eventsAt key log) (found : w'.residents[handle]? = some r) :
    r.self.state = .stopped ∨ Missed log key handle := by
  obtain ⟨targets, report, mem, listed⟩ := asked_of_mem asked
  obtain ⟨past, rest, rfl⟩ := List.append_of_mem mem
  obtain ⟨u, _, v, answered, others⟩ := World.answersAll_append.mp answers
  obtain ⟨r₀, there, here⟩ := answered.1.there _ listed
  obtain ⟨r₁, found₁, affects⟩ := answered.affects handle r₀ there
  obtain ⟨r', found', stays⟩ := others.stopped handle r₁ found₁
  rw [found] at found'
  cases found'
  cases affects with
  | passed keeps apart => exact absurd (List.mem_map_of_mem listed) (apart _ _ rfl)
  | @asked op targets' report' key' outcome same listed' reported meets =>
    cases same
    obtain ⟨r₀', there', here'⟩ := answered.1.there _ listed'
    rw [there] at there'
    cases there'
    obtain rfl : key' = key := here'.symm.trans here
    cases outcome with
    | ok _ => exact .inl (stays (meets.heeds.responds.of_stop))
    | error failure => exact .inr ⟨targets, report, failure, mem, listed, reported failure rfl⟩

/-- Nobody has come or gone or moved, and whoever had stopped has stopped for good. -/
structure Stays (w w' : World) : Prop where
  size : w'.residents.size = w.residents.size
  each : World.Each (fun _ r r' => r'.self.key = r.self.key ∧
    (r.self.state = .stopped → r'.self.state = .stopped)) w w'

theorem Stays.exists_before (stays : Stays w w') (found : w'.residents[handle]? = some r) :
    ∃ r₀, w.residents[handle]? = some r₀ ∧ r.self.key = r₀.self.key ∧
      (r₀.self.state = .stopped → r.self.state = .stopped) := by
  have within := (Array.getElem?_eq_some_iff.mp found).1
  rw [stays.size] at within
  have known := Array.getElem?_eq_getElem within
  obtain ⟨r', found', same⟩ := stays.each handle _ known
  rw [found] at found'
  cases found'
  exact ⟨_, known, same⟩

/-- Since they have all answered, the residents of a scene have stayed. -/
def Peopled (calm : Prop) (log : List Exchange) (s : Scene) : Prop :=
  ∃ v, World.vacant.AnswersAll calm log v ∧ Stays v s.world

theorem World.Keeps.stays (keeps : w.Keeps w') : Stays w w' :=
  ⟨keeps.size, keeps.each.imp fun _ _ _ kept => ⟨kept.key, kept.stopped⟩⟩

theorem InFlight.stays {op : InstanceOp} {targets : List (StageKey × Handle)} {s : Scene}
    (flight : InFlight calm w op targets s) : Stays w s.world := by
  refine ⟨flight.size, fun handle b known => ?_⟩
  obtain ⟨r, found⟩ := flight.exists_resident known
  refine ⟨r, found, ?_⟩
  by_cases begun : ∃ (i : Nat) (key : StageKey) (e : Errand),
      targets[i]? = some (key, handle) ∧ s.errands[i]? = some e
  · obtain ⟨i, key, e, listed, stands⟩ := begun
    have misses := (flight.begun i key handle e b r listed stands known found).misses
    exact ⟨misses.key, misses.stopped⟩
  · have untouched := flight.unbegun handle b r (by
      intro i key listed
      by_contra stands
      obtain ⟨e, stands⟩ := Option.ne_none_iff_exists'.mp stands
      exact begun ⟨i, key, e, listed, stands⟩) known found
    exact ⟨untouched.keeps.key, untouched.keeps.stopped⟩

theorem Underway.stays {α : Type} {s : Scene} {fate : Option Fate} {b : Activity α}
    (underway : Underway calm w s fate b) : Stays w s.world := by
  cases fate with
  | none => exact (Resting.keeps underway).stays
  | some fate =>
    cases b with
    | done run x => exact underway.elim
    | waiting run call resume =>
      cases call with
      | bind groups => exact underway.1.keeps.stays
      | repartition group => exact underway.1.keeps.stays
      | start options => exact underway.1.keeps.stays
      | fanOut op targets => exact underway.1.stays

theorem Onstage.peopled {s : Scene} (accepted : c.flow.Accepted) (onstage : Onstage calm c log s) :
    Peopled calm log s := by
  cases onstage with
  | starting blank course =>
    obtain ⟨v, answers, underway⟩ := course.underway blank.fit (addressed_start accepted _)
    exact ⟨v, answers.since blank.keeps, underway.stays⟩
  | resting rehearsed =>
    have told := rehearsed.told accepted
    exact ⟨s.world, told.answers, (World.Keeps.refl _).stays⟩
  | @busy s₀ _ log log' request b fate before course =>
    have told := before.told accepted
    obtain ⟨v, answers, underway⟩ := course.underway told.fit (told.addressed accepted request)
    exact ⟨v, World.answersAll_append.mpr ⟨_, told.answers, answers⟩, underway.stays⟩

theorem Onstage.lived {s : Scene} (accepted : c.flow.Accepted) (onstage : Onstage calm c log s)
    (key : StageKey) : ∃ later held, Lived (eventsAt key log ++ later) held := by
  cases onstage with
  | @starting s₀ _ _ b fate blank course =>
    obtain ⟨rest, run, x, ended, _⟩ := b.exists_refused_end
    have chronicle : Chronicle (eventsAt key (log ++ rest)) (run.lifeAt key) :=
      start_chronicle accepted (course.leads.trans ended)
    have lived := chronicle.treated.lived
    rw [eventsAt_append] at lived
    exact ⟨_, _, lived⟩
  | resting rehearsed =>
    have lived := ((rehearsed.told accepted).reached.chronicle accepted key).treated.lived
    rw [← List.append_nil (eventsAt key log)] at lived
    exact ⟨_, _, lived⟩
  | @busy s₀ _ log log' request b fate before course =>
    obtain ⟨rest, run, x, ended, _⟩ := b.exists_refused_end
    have reached := (before.told accepted).reached.answered (course.leads.trans ended)
    have lived := (reached.chronicle accepted key).treated.lived
    rw [← List.append_assoc, eventsAt_append] at lived
    exact ⟨_, _, lived⟩

theorem Peopled.started {s : Scene} (peopled : Peopled calm log s)
    (found : s.world.residents[handle]? = some r) :
    .started handle ∈ eventsAt r.self.key log := by
  obtain ⟨v, answers, stays⟩ := peopled
  obtain ⟨r', known, same, _⟩ := stays.exists_before found
  rw [same]
  rcases answers.gave known with ⟨r₀, nobody⟩ | gave
  · simp [World.vacant, World.empty] at nobody
  · exact gave_iff_started.mp gave

theorem Peopled.dismissed {s : Scene} (peopled : Peopled calm log s)
    (found : s.world.residents[handle]? = some r)
    (asked : .asked .stop handle ∈ eventsAt r.self.key log) : Dismissed log handle r := by
  obtain ⟨v, answers, stays⟩ := peopled
  obtain ⟨r', known, _, stopped⟩ := stays.exists_before found
  exact (answers.dismissed asked known).imp_left stopped

theorem vacant_of_resized {run run' : Run} {stage : String} {target : Nat} (sound : Sound c run)
    (returned : Returns (changeInstances stage target) run log run' (.ok ()))
    (here : key.stage = stage) (beyond : target ≤ key.instanceId) : run'.registry.get? key = none := by
  by_cases due : ∃ spec, Due run stage target spec
  · obtain ⟨spec, due⟩ := due
    have staffed := (sound.staffed (.inl due.alive)).keys
    have named := FlowSpec.name_of_stage? due.found
    rw [Returns, changeInstances_due due, ← named] at returned
    cases returns_rescale returned with
    | complete work =>
      have numbered := reshaped_numbered staffed work
      rw [leftWith_ok work] at numbered
      refine numbered.get?_eq_none ?_
      rw [here, ← named, Function.update_self]
      exact beyond
  · unfold Returns changeInstances requiring at returned
    have finished {x : Outcome} (leads : (Activity.done run x).Leads log (.done run' (.ok ()))) :
        run' = run ∧ x = .ok () := by
      obtain ⟨_, same⟩ := Activity.leads_done_iff.mp leads
      cases same
      exact ⟨rfl, rfl⟩
    split at returned
    · rename_i alive
      beta_reduce at returned
      split at returned
      · cases (finished returned).2
      · rename_i some_instances
        split at returned
        · cases (finished returned).2
        · rename_i spec found
          have alive : run.state = .alive := by simpa using alive
          by_cases same : Registry.liveCount run.registry stage = target
          · simp only [same, if_true] at returned
            obtain ⟨rfl, _⟩ := finished returned
            refine (sound.staffed (.inl alive)).keys.get?_eq_none ?_
            rw [here, same]
            exact beyond
          · exact absurd ⟨spec, alive, some_instances, found, same⟩ due
    · cases (finished returned).2

/-- At every moment of a rehearsal, whatever fails, is late or is given up, of two instances of one
place one has stopped, or it was reported that it did not; and when a stage has been given a number,
so it is with all beyond it. -/
theorem exclusive_of_made {program : Program} {options : RunOptions}
    (made : RunContext.ofProgram program options = .ok c) :
    (∀ log s, Onstage calm c log s → ∀ (handle handle' : Handle) r r', handle ≠ handle' →
      s.world.residents[handle]? = some r → s.world.residents[handle']? = some r' →
      r.self.key = r'.self.key → Dismissed log handle r ∨ Dismissed log handle' r') ∧
    ∀ log log' s₀ s stage target run, Rehearsed calm c log s₀ →
      Staged calm ((RunRequest.changeInstances stage target).operation s₀.run) s₀ log'
        (.done run (.outcome (.ok ()))) none s →
      ∀ (handle : Handle) r, s.world.residents[handle]? = some r → r.self.key.stage = stage →
        target ≤ r.self.key.instanceId → Dismissed (log ++ log') handle r := by
  have accepted := RunContext.accepted_of_ofProgram made
  constructor
  · intro log s onstage handle handle' r r' apart found found' same
    have peopled := onstage.peopled accepted
    obtain ⟨later, held, lived⟩ := onstage.lived accepted r.self.key
    have first := peopled.started found
    have second := peopled.started found'
    rw [← same] at second
    rcases lived.stop_mem_of_two first second apart with asked | asked
    · exact .inl (peopled.dismissed found asked)
    · exact .inr (peopled.dismissed found' (same ▸ asked))
  · intro log log' s₀ s stage target run before course handle r found here beyond
    have told := before.told accepted
    obtain ⟨x, returned, same⟩ := returns_outcome course.leads
    cases same
    have peopled := (Onstage.busy before course).peopled accepted
    have vacant := vacant_of_resized (sound_of_accepted accepted told.reached) returned here beyond
    have lived := ((told.reached.answered course.leads).chronicle accepted r.self.key).treated.lived
    rw [vacant] at lived
    exact peopled.dismissed found (lived.stop_mem (peopled.started found))

end

/-! A stage of two instances, of which the second cannot be reached when it is to be stopped: the stage
is given one instance, and then two again. -/

def pairStage : StageSpec := ⟨"stage", 2, .empty⟩

def pairFlow : FlowSpec := ⟨"flow", [pairStage], []⟩

def pairContext : RunContext := ⟨⟨loneProgram.id, loneOptions.runId⟩, pairFlow, loneOptions⟩

def strayPlan : Plan where
  program := ⟨loneProgram.id, ⟨"default", "app", [pairFlow]⟩⟩
  options := loneOptions
  clock := fun _ => 0
  limit := none
  policy := ⟨1, 0⟩
  faults := [⟨.stop, some "stage", some 1, ⟨some 0, some "unreachable"⟩, some 1⟩]
  refuses := fun _ => false
  delays := fun _ => some 0
  store := none
  listeners := []
  steps := []

def strayRequests : List RunRequest := [.changeInstances "stage" 1, .changeInstances "stage" 2]

theorem stray_made : RunContext.ofProgram strayPlan.program strayPlan.options = .ok pairContext := rfl

/-- The one beyond the stage's number goes on after it was given, and when the number has grown
again, there are two in its place. -/
theorem stray_overlaps :
    (strayPlan.start pairContext).2.isGranted ∧
      (strayPlan.asked pairContext (strayRequests.take 1)).2.map (·.isGranted) = [true] ∧
      ((strayPlan.asked pairContext (strayRequests.take 1)).1.scene.world.residents.map fun r =>
        (r.self.key, r.self.state)) = #[(⟨"stage", 0⟩, .alive), (⟨"stage", 1⟩, .alive)] ∧
      (strayPlan.asked pairContext strayRequests).2.map (·.isGranted) = [true, true] ∧
      ((strayPlan.asked pairContext strayRequests).1.scene.world.residents.map fun r =>
        (r.self.key, r.self.state)) =
          #[(⟨"stage", 0⟩, .alive), (⟨"stage", 1⟩, .alive), (⟨"stage", 1⟩, .alive)] := by
  decide +kernel

theorem stray_answered : strayPlan.Answered pairContext strayRequests := by decide +kernel

theorem stray_dismissed :
    ∃ log, Onstage False pairContext log (strayPlan.asked pairContext strayRequests).1.scene ∧
      ∀ r r', (strayPlan.asked pairContext strayRequests).1.scene.world.residents[1]? = some r →
        (strayPlan.asked pairContext strayRequests).1.scene.world.residents[2]? = some r' →
        r.self.key = r'.self.key → Dismissed log 1 r ∨ Dismissed log 2 r' := by
  obtain ⟨log, paused⟩ := strayPlan.paused_asked strayRequests
    (RunContext.accepted_of_ofProgram stray_made) False.elim stray_answered
  refine ⟨log, .resting paused.rehearsed, fun r r' first second same => ?_⟩
  exact (exclusive_of_made stray_made).1 log _ (.resting paused.rehearsed) 1 2 r r' (by decide) first
    second same

end FlowRuntime.Rehearsal
