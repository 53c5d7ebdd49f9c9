import FlowRuntime.Proofs.Rehearsal.Solo

/-!
Who has the run's turn. A part takes the turn when it begins, or stands in line for it, and
passes it on when its request has been answered. We verify that nothing else that happens in
a scene touches the turn or the line: not calls and answers, not instances and listeners, not
asides, and not time.
-/
namespace FlowRuntime.Rehearsal

structure Seated (s s' : Scene) : Prop where
  turn : s'.turn = s.turn
  line : s'.line = s.line

namespace Seated
variable {s s' s'' : Scene}

theorem refl (s : Scene) : Seated s s := ⟨rfl, rfl⟩

theorem trans (first : Seated s s') (second : Seated s' s'') : Seated s s'' :=
  ⟨second.turn.trans first.turn, second.line.trans first.line⟩

theorem foldl {ι : Type} {f : Scene → ι → Scene} (each : ∀ s i, Seated s (f s i)) (s : Scene)
    (items : List ι) : Seated s (items.foldl f s) := by
  refine List.foldlRecOn items f (refl s) ?_
  intro s' kept i _
  exact kept.trans (each s' i)

/-! ### Waking and waiting -/

theorem wake (s : Scene) (p : Player) : Seated s (s.wake p) := by
  apply Scene.wake_induction (refl s)
  · intro place
    exact ⟨rfl, rfl⟩
  · exact ⟨rfl, rfl⟩

theorem wakeAll (s : Scene) (players : List Player) : Seated s (s.wakeAll players) :=
  foldl wake s players

theorem cue (s : Scene) (time : Nat) (p : Player) : Seated s (s.cue time p) := by
  unfold Scene.cue
  split <;> exact ⟨rfl, rfl⟩

theorem cueAt (s : Scene) (time : Option Nat) (place : Nat) : Seated s (s.cueAt time place) := by
  apply Scene.cueAt_induction (refl s)
  intro time _
  exact cue s time _

theorem advance (s : Scene) (time : Nat) : Seated s (s.advance time) := by
  have passed : Seated s { s with now := time, cues := s.cues.filter (time < ·.time) } := ⟨rfl, rfl⟩
  exact passed.trans (wakeAll _ _)

theorem enter (s : Scene) (place : Nat) (entrance : Entrance) :
    Seated s (s.enter place entrance).1 := by
  cases entrance with
  | ahead after =>
    simp only [Scene.enter]
    split
    · exact refl s
    · exact cue s _ _
  | waiting due =>
    simp only [Scene.enter]
    split <;> exact refl s
  | begun time => exact refl s

/-! ### Errands and calls -/

theorem send (s : Scene) (i : Nat) (handle : Handle) (op : InstanceOp) :
    Seated s (s.send i handle op) := by
  unfold Scene.send
  split
  · exact ⟨rfl, rfl⟩
  · dsimp only
    split <;> exact ⟨rfl, rfl⟩

theorem attendErrand (s : Scene) (op : InstanceOp) (i : Nat) (handle : Handle) :
    Seated s (s.attendErrand op i handle) := by
  apply Scene.attendErrand_induction (P := Seated s) (refl s)
  · intro s' outcome seated
    exact seated.trans ⟨rfl, rfl⟩
  · exact send s i handle op

theorem attendErrands (s : Scene) (op : InstanceOp) (targets : List (StageKey × Handle)) :
    Seated s (s.attendErrands op targets) :=
  foldl (fun s (e : (StageKey × Handle) × Nat) => attendErrand s op e.2 e.1.2) s _

theorem startErrand (s : Scene) (place : Nat) (op : InstanceOp) (target : StageKey × Handle) :
    Seated s (s.startErrand place op target) := by
  apply Scene.startErrand_induction (P := Seated s)
  · intro e
    exact ⟨rfl, rfl⟩
  · intro s' i seated
    exact seated.trans (attendErrand s' op i target.2)
  · intro s' time seated
    exact seated.trans (cueAt s' time place)

theorem beginSingle (s : Scene) (place : Nat) (call : LoggedCall) :
    Seated s (s.beginSingle place call).1 := by
  have met : Seated s { s with world := (s.world.meet call).1 } := ⟨rfl, rfl⟩
  exact met.trans (cueAt _ _ place)

theorem beginCall (s : Scene) (place : Nat) (call : Call) :
    Seated s (s.beginCall place call).1 := by
  apply Scene.beginCall_induction (P := Seated s) (beginSingle s place)
  · exact ⟨rfl, rfl⟩
  · intro s' op target seated
    exact seated.trans (startErrand s' place op target)

theorem single? {α : Type} (s : Scene) (fate : Fate) (go : World → World × Except Failure α) :
    Seated s (s.single? fate go).1 := by
  unfold Scene.single?
  split
  · exact refl s
  · split <;> exact ⟨rfl, rfl⟩

theorem answer? (s : Scene) (fate : Fate) (call : Call) : Seated s (s.answer? fate call).1 := by
  cases call with
  | bind groups => exact single? s fate _
  | repartition group => exact single? s fate _
  | start options =>
    refine (single? s fate (·.start options)).trans ?_
    simp only [Scene.answer?, Scene.greet]
    split
    · exact wake _ _
    · exact refl _
  | fanOut op targets => exact attendErrands s op targets

/-! ### The run and those around it -/

theorem see (s : Scene) (run : Run) : Seated s (s.see run) := by
  apply Scene.see_induction (P := Seated s)
  · exact ⟨rfl, rfl⟩
  · intro s' t seated
    exact seated.trans ⟨rfl, rfl⟩
  · intro s' players seated
    exact seated.trans (wakeAll s' players)

theorem keptByCalls (s : Scene) (place : Nat) : Scene.KeptByCalls place (Seated s) where
  seen s' run seated := seated.trans (see s' run)
  begun s' call seated := seated.trans (beginCall s' place call)
  looked s' fate call seated := seated.trans (answer? s' fate call)
  dropped _ seated := seated.trans ⟨rfl, rfl⟩

theorem drive {α : Type} (s : Scene) (place : Nat) (a : Activity α) :
    Seated s (s.drive place a).1 :=
  (keptByCalls s place).drive (refl s) a

theorem goOn {α : Type} (s : Scene) (place : Nat) (u : Undertaking α) :
    Seated s (s.goOn place u).1 :=
  (keptByCalls s place).goOn (refl s) u

theorem noteAnswer (s : Scene) (l : Letter) (outcome : Outcome) :
    Seated s (s.noteAnswer l outcome) := by
  apply Scene.noteAnswer_induction (P := Seated s) (refl s) ⟨rfl, rfl⟩
  intro s' players seated
  exact seated.trans (wakeAll s' players)

theorem residentReads (s : Scene) (handle : Handle) : Seated s (s.residentReads handle) := by
  apply Scene.residentReads_induction (P := Seated s) ⟨rfl, rfl⟩
  intro s' l outcome seated
  exact seated.trans (noteAnswer s' l outcome)

theorem listenerWorks (s : Scene) (i : Nat) : Seated s (s.listenerWorks i) := by
  have worked : Seated s { s with audience := s.audience.work s.now i } := ⟨rfl, rfl⟩
  apply Scene.listenerWorks_induction (P := Seated s) worked
  · intro s' places seated
    exact seated.trans (wakeAll s' _)
  · intro s' time seated
    exact seated.trans (cue s' time _)

theorem workRound (s : Scene) (turns : Nat) : Seated s (s.workRound turns) := by
  apply Scene.workRound_induction (P := Seated s) (refl s)
  intro s' next rest _ seated
  have taken : Seated s { s' with called := rest } := seated.trans ⟨rfl, rfl⟩
  cases next with
  | part place => exact taken
  | resident handle => exact taken.trans (residentReads _ handle)
  | listener i => exact taken.trans (listenerWorks _ i)

theorem listen (s : Scene) (l : Listener) : Seated s (s.listen l) := by
  have added : Seated s { s with audience := s.audience.add l } := ⟨rfl, rfl⟩
  exact added.trans (wake _ _)

theorem shutDown (s : Scene) : Seated s s.shutDown := by
  have told : Seated s { s with world := s.world.shutDown } := ⟨rfl, rfl⟩
  exact told.trans (wakeAll _ _)

theorem rest (s : Scene) (place ms : Nat) : Seated s (s.rest place ms).1 := by
  unfold Scene.rest
  dsimp only
  split
  · exact refl s
  · exact cue s _ _

theorem attend (s : Scene) (place : Nat) (a : Aside) : Seated s (s.attend place a).1 := by
  cases a with
  | shutDown => exact shutDown s
  | listen name fears => exact listen s _
  | record => exact listen s _
  | sleep ms => exact rest s place ms
  | join =>
    have joined : Seated s
        { s with audience := s.audience.join, joiners := s.joiners ++ [place] } := ⟨rfl, rfl⟩
    exact joined.trans (cue _ _ _)
  | _ => exact ⟨rfl, rfl⟩

end Seated

/-! ### Asides -/

theorem unheard_enter (s : Scene) (place : Nat) (entrance : Entrance) :
    Unheard s (s.enter place entrance).1 := by
  cases entrance with
  | ahead after =>
    simp only [Scene.enter]
    split
    · exact .refl s
    · exact .ofReordered (.cue _ _ _)
  | waiting due =>
    simp only [Scene.enter]
    split <;> exact .refl s
  | begun time => exact .refl s

theorem aloof_attend (s : Scene) (place : Nat) (a : Aside) : Aloof s (s.attend place a).1 := by
  cases a with
  | shutDown =>
    have told : Aloof s { s with world := s.world.shutDown } := ⟨rfl, rfl, rfl, rfl⟩
    exact told.trans (.ofReordered (.wakeAll _ _))
  | listen name fears => exact .listen s _
  | record => exact .listen s _
  | sleep ms =>
    simp only [Scene.attend, Scene.rest]
    split
    · exact .refl s
    · exact .ofReordered (.cue _ _ _)
  | join =>
    have joined : Aloof s
        { s with audience := s.audience.join, joiners := s.joiners ++ [place] } :=
      ⟨rfl, rfl, rfl, rfl⟩
    exact joined.trans (.ofReordered (.cue _ _ _))
  | _ => exact ⟨rfl, rfl, rfl, rfl⟩

end FlowRuntime.Rehearsal
