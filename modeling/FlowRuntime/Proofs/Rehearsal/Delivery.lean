import FlowRuntime.Proofs.Rehearsal.Broadcast

/-!
Delivery to listeners. Whoever comes to listen to a run, and whenever, hears first how the run stands
and then every change that follows, once and in order, up to the end of the run and no
further; who comes after the end hears of the end and of nothing else. We verify this of all
listeners at once, however they are added, however slowly they work and whatever is asked of
the run meanwhile; and that whoever waits for them waits in vain only while the run goes on.
-/
namespace FlowRuntime.Rehearsal
open Listener

/-- How a listener stands that was added as `l₀` when the run stood like `since` and has been told this,
when the run stands like `now`. One that fears nothing hears all there is to hear, and is over when it
has handled the end. -/
structure Delivered (since now : Run) (told : List Notice) (l₀ l : Listener) : Prop where
  same : l₀.Same l
  whole : told.map Notice.toTransition = stream since now
  receives : l.Receives told
  ends : EndsOnce (stream since now)
  ended : (∃ t ∈ stream since now, t.isLast = true) ↔ now.state.isTerminal = true
  caused : since.cause.isSome ↔ since.state = .error
  heard : ∀ h, l = .hearer h → h.fears = none → h.heard <+: told ∧
    (h.isOver = true ↔ h.hearing = none ∧ ∃ n ∈ h.heard, n.isLast = true) ∧
    (h.isOver = true → h.heard = told)

section
variable {c : RunContext} {s₁ s₂ s : Scene} {l : Listener}

theorem delivered_of_aired (accepted : c.flow.Accepted) (seen : Seen c s₁.run) (added : Added s₁ l)
    (aired : Aired c (s₁.listen l) s) :
    ∃ told l', s.audience.listeners[s₁.audience.listeners.size]? = some l' ∧
      Delivered s₁.run s.run told l l' := by
  obtain ⟨news, _, whole, l', found, same, receives⟩ := tells_of_aired accepted seen added aired
  have here : (s₁.listen l).run = s₁.run := (Aloof.listen s₁ l).run
  obtain ⟨later, onward⟩ := Aired.seen aired (here ▸ seen)
  rw [here] at onward
  have since := seen.storied accepted
  have now := later.storied accepted
  exact ⟨s₁.inbox.pending ++ news, l', found, {
    same := same
    whole := whole
    receives := receives
    ends := stream_endsOnce now
    ended := stream_ended_iff now since onward
    caused := since.cause_iff
    heard := by
      rintro h rfl fearless
      exact receives.heard (whole ▸ stream_endsOnce now) fearless }⟩

theorem streams_agree (accepted : c.flow.Accepted) (seen : Seen c s₁.run) (first : Aired c s₁ s₂)
    (second : Aired c s₂ s) :
    ∃ news, stream s₁.run s.run = stream s₁.run s₂.run ++ news ∧
      stream s₂.run s.run = stream s₂.run s₂.run ++ news := by
  obtain ⟨seen₂, onward₁⟩ := first.seen seen
  obtain ⟨later, onward₂⟩ := second.seen seen₂
  have now := later.storied accepted
  exact ⟨_, stream_onward now (seen.storied accepted) onward₁ onward₂,
    stream_onward now (seen₂.storied accepted) (.refl _) onward₂⟩

theorem news_agree {l₁ l₂ : Listener} (accepted : c.flow.Accepted) (seen : Seen c s₁.run)
    (added₁ : Added s₁ l₁) (first : Aired c (s₁.listen l₁) s₂) (added₂ : Added s₂ l₂)
    (second : Aired c (s₂.listen l₂) s) :
    ∃ told news, s₂.audience.Tells s₁.audience.listeners.size l₁ told ∧
      s.audience.Tells s₁.audience.listeners.size l₁ (told ++ news) ∧
      s.audience.Tells s₂.audience.listeners.size l₂ (s₂.inbox.pending ++ news) := by
  have here : (s₁.listen l₁).run = s₁.run := (Aloof.listen s₁ l₁).run
  have there : (s₂.listen l₂).run = s₂.run := (Aloof.listen s₂ l₂).run
  obtain ⟨seen₂, onward⟩ := Aired.seen first (here ▸ seen)
  rw [here] at onward
  obtain ⟨earlier, _, whole, tells₁⟩ := tells_of_aired accepted seen added₁ first
  obtain ⟨news, brings, _, tells₂⟩ := tells_of_aired accepted seen₂ added₂ second
  refine ⟨s₁.inbox.pending ++ earlier, news, tells₁, ?_, tells₂⟩
  refine (brings seen (there ▸ onward) (by rw [there, whole]) ?_).2
  rw [audience_listen]
  exact tells₁.add l₂

end

def choirPlan : Plan :=
  { strayPlan with
    clock := fun ms => .ofNat ms
    faults := [⟨.suspend, none, none, ⟨some 5, none⟩, none⟩]
    listeners := [("first", [])] }

def choirOpening : Interval := (choirPlan.start pairContext).1

def choirSuspension : Step :=
  .together [(0, .one (.turn .suspend)), (2, .one (.aside (.listen "second" none [some 9])))]

def choirPause : Interval := (choirOpening.play choirSuspension).1

def choirEnd : Interval := (choirPause.play (.one (.turn .stop))).1

def choir : Scene := (choirEnd.play (.one (.aside (.listen "third" none [none])))).1.scene

theorem choir_over :
    (choirPlan.start pairContext).2.isGranted ∧
      (choirOpening.play choirSuspension).2.finding.isSome ∧
      (choirPause.play (.one (.turn .stop))).2.finding.isSome := by
  decide +kernel

theorem choir_heard :
    choir.audience.listeners.size = 4 ∧
      choir.audience.heardBy? "first" = some [⟨⟨none, .alive, none⟩, 0⟩,
        ⟨⟨some .alive, .suspending, none⟩, 0⟩, ⟨⟨some .suspending, .suspended, none⟩, 5⟩,
        ⟨⟨some .suspended, .stopping, none⟩, 11⟩, ⟨⟨some .stopping, .stopped, none⟩, 11⟩] ∧
      choir.audience.heardBy? "second" = some [⟨⟨none, .suspending, none⟩, 2⟩,
        ⟨⟨some .suspending, .suspended, none⟩, 5⟩, ⟨⟨some .suspended, .stopping, none⟩, 11⟩,
        ⟨⟨some .stopping, .stopped, none⟩, 11⟩] ∧
      choir.audience.heardBy? "third" = some [⟨⟨none, .stopped, none⟩, 11⟩] := by
  decide +kernel

/-! Somebody has come to listen when a run fails, and takes a long time over what there is to hear. -/

def loneOpening : Scene := { strayPlan.opening loneContext with run := loneRun, turn := none }

def loneScenes : Nat → Scene
  | 0 => loneOpening
  | 1 => loneOpening.listenFor "slow" none []
  | 2 => (loneScenes 1).see loneFailed
  | n + 3 => { loneScenes (n + 2) with
      audience := (loneScenes (n + 2)).audience.workOn (loneScenes (n + 2)).now 0 1 }

theorem lone_airs (n : Nat) : Airs loneContext (loneScenes n) (loneScenes (n + 1)) := by
  match n with
  | 0 => exact .listened (.hearer "slow" none [])
  | 1 =>
    have onward : Onward loneRun loneFailed :=
      (Operation.unfolds_request (.changeInstances "stage" 2) loneRun).leads lone_failed
    exact .saw (.resting lone_reached_failed) onward
  | n + 2 => exact .worked 0 1

theorem lone_size (n : Nat) : (loneScenes (n + 1)).audience.listeners.size = 1 := by
  induction n with
  | zero => rfl
  | succ n ih =>
    cases n with
    | zero => decide +kernel
    | succ n => exact (Audience.size_workOn _ _ 0 1).trans ih

def isPrompt : Listener → Bool
  | .hearer h => h.pace.isEmpty && h.hearing.isNone
  | .recorder _ => false

theorem isPrompt_hearer {h : Hearer} :
    isPrompt (.hearer h) = true ↔ h.pace = [] ∧ h.hearing = none := by
  simp [isPrompt]

theorem isReady_of_isPrompt {l : Listener} (prompt : isPrompt l = true) (now : Nat) :
    l.isReady now = true := by
  cases l with
  | recorder r => cases prompt
  | hearer h => simp [isReady, waits?, (isPrompt_hearer.mp prompt).2]

theorem prompt_hearAll (now : Nat) {h : Hearer} (prompt : isPrompt (.hearer h) = true)
    (pending : List Notice) : isPrompt (.hearer (h.hearAll now pending)) = true := by
  induction pending generalizing h with
  | nil => exact prompt
  | cons n rest ih =>
    obtain ⟨pace, idle⟩ := isPrompt_hearer.mp prompt
    simp only [Hearer.hearAll, pace, List.headD_nil, List.tail_nil, if_true]
    split
    · exact isPrompt_hearer.mpr ⟨rfl, idle⟩
    · exact ih (isPrompt_hearer.mpr ⟨rfl, idle⟩)

theorem prompt_workOn {l : Listener} (prompt : isPrompt l = true) (most now : Nat)
    (ledger : Ledger) : isPrompt (l.workOn most now ledger).1 = true := by
  cases l with
  | recorder r => cases prompt
  | hearer h =>
    have worked : isPrompt (((hearer h).taken most).work now ledger).1 = true := by
      obtain ⟨pace, idle⟩ := isPrompt_hearer.mp prompt
      simp only [taken, withInbox, work, Hearer.work, idle]
      refine prompt_hearAll now ?_ _
      exact isPrompt_hearer.mpr ⟨pace, rfl⟩
    rcases (hearer h).workOn_cases most now ledger with ⟨_, same⟩ | ⟨_, same⟩
    · rwa [same]
    · rw [same]
      exact worked

theorem lone_listens (n : Nat) :
    (loneScenes (n + 1)).audience.listeners[0]?.any isPrompt = true := by
  induction n with
  | zero => decide +kernel
  | succ n ih =>
    cases n with
    | zero => decide +kernel
    | succ n =>
      rw [Option.any_eq_true] at ih ⊢
      obtain ⟨l, found, prompt⟩ := ih
      have worked := (loneScenes (n + 2)).audience.getElem?_workOn (loneScenes (n + 2)).now 0 1 found
      rw [if_pos rfl] at worked
      exact ⟨_, worked, prompt_workOn prompt 1 _ _⟩

theorem lone_airing : Airing loneContext loneScenes where
  nobody := rfl
  seen := .resting lone_reached
  airs := lone_airs
  turns n i there := by
    cases n with
    | zero => exact absurd there (Nat.not_lt_zero i)
    | succ n =>
      rw [lone_size] at there
      obtain rfl : i = 0 := by omega
      refine ⟨n + 2, by omega, ⟨1, Nat.one_pos, rfl⟩, ?_⟩
      intro l here
      have prompt := lone_listens (n + 1)
      rw [here] at prompt
      exact isReady_of_isPrompt prompt _

example : (loneScenes 6).audience.heardBy? "slow" = some [⟨⟨none, .alive, none⟩, 0⟩,
    ⟨⟨some .alive, .stopping, none⟩, 0⟩, ⟨⟨some .stopping, .error, some loneDenial.chain⟩, 0⟩] := by
  decide +kernel

end FlowRuntime.Rehearsal
