import FlowRuntime.Proofs.Rehearsal.Kept

/-!
Who is woken in a scene, and when. Waking, cues and turns only say who goes on next;
nothing about the run, its instances, its listeners or its errands comes of them.
-/
namespace FlowRuntime.Rehearsal

theorem World.meet_faultless {w : World} (faultless : w.faults = []) (call : LoggedCall) :
    w.meet call = ({ w with faults := [], calls := call :: w.calls }, .unharmed) := by
  rw [World.meet, faultless, Fault.meet]

/-- Only who goes on next, and what the run was last seen to be, has changed. -/
def Reordered (s s' : Scene) : Prop :=
  ∃ watched cues stirred called joiners turn line,
    s' = { s with watched, cues, stirred, called, joiners, turn, line }

namespace Reordered
variable {s s' s'' : Scene}

theorem refl (s : Scene) : Reordered s s := ⟨_, _, _, _, _, _, _, rfl⟩

theorem trans (first : Reordered s s') (second : Reordered s' s'') : Reordered s s'' := by
  obtain ⟨_, _, _, _, _, _, _, rfl⟩ := first
  obtain ⟨_, _, _, _, _, _, _, rfl⟩ := second
  exact ⟨_, _, _, _, _, _, _, rfl⟩

theorem secs (reordered : Reordered s s') : s'.secs = s.secs := by
  obtain ⟨_, _, _, _, _, _, _, rfl⟩ := reordered
  rfl

theorem foldl {ι : Type} {f : Scene → ι → Scene} (each : ∀ s i, Reordered s (f s i)) (s : Scene)
    (items : List ι) : Reordered s (items.foldl f s) := by
  refine List.foldlRecOn items f (refl s) ?_
  intro s' kept i _
  exact kept.trans (each s' i)

theorem wake (s : Scene) (p : Player) : Reordered s (s.wake p) := by
  apply Scene.wake_induction (refl s)
  · intro place
    exact ⟨_, _, _, _, _, _, _, rfl⟩
  · exact ⟨_, _, _, _, _, _, _, rfl⟩

theorem wakeAll (s : Scene) (players : List Player) : Reordered s (s.wakeAll players) :=
  foldl wake s players

theorem cue (s : Scene) (time : Nat) (p : Player) : Reordered s (s.cue time p) := by
  unfold Scene.cue
  split
  · exact refl s
  · exact ⟨_, _, _, _, _, _, _, rfl⟩

theorem cueAt (s : Scene) (time : Option Nat) (place : Nat) :
    Reordered s (s.cueAt time place) := by
  apply Scene.cueAt_induction (refl s)
  intro time _
  exact cue s time _

theorem dropCues (s : Scene) (p : Player) : Reordered s (s.dropCues p) :=
  ⟨_, _, _, _, _, _, _, rfl⟩

theorem greet (s : Scene) (handle : Nat) : Reordered s (s.greet handle) := by
  unfold Scene.greet
  split
  · exact wake _ _
  · exact refl s

theorem passTurn (s : Scene) : Reordered s s.passTurn := by
  unfold Scene.passTurn
  split
  · exact ⟨_, _, _, _, _, _, _, rfl⟩
  · refine trans ?_ (wake _ _)
    exact ⟨_, _, _, _, _, _, _, rfl⟩

theorem listenerWorks (s : Scene) (i : Nat) :
    Reordered { s with audience := s.audience.work s.now i } (s.listenerWorks i) := by
  apply Scene.listenerWorks_induction (P := Reordered { s with audience := s.audience.work s.now i })
  · exact refl _
  · intro s' places reordered
    exact reordered.trans (wakeAll s' _)
  · intro s' time reordered
    exact reordered.trans (cue s' time _)

end Reordered
end FlowRuntime.Rehearsal
