import FlowRuntime.Proofs.Rehearsal.Playing
import FlowRuntime.Proofs.Run.Story

/-!
What listeners hear. All that a rehearsal does to those who listen is that it tells them how
the story of the run goes on, and has them work. We verify that while an operation is
carried out they are told exactly what it adds to the story, in its order, and that they are
told nothing while a step comes to its end.
-/
namespace FlowRuntime

def Audience.Clocks (a : Audience) (told : List Notice) : Prop := ∀ n ∈ told, ∃ ms, n.secs = a.clock ms

theorem Audience.clock_work (a : Audience) (now i : Nat) : (a.work now i).clock = a.clock := by
  unfold work
  split <;> rfl

namespace Rehearsal

/-- An audience has been told this news, in its order, and has worked whenever it did. -/
inductive Hears : Audience → List Notice → Audience → Prop where
  | refl (a : Audience) : Hears a [] a
  | told {a a' : Audience} {news : List Notice} (before : Hears a news a') (n : Notice) :
      Hears a (news ++ [n]) (a'.tell n)
  | worked {a a' : Audience} {news : List Notice} (before : Hears a news a') (now i : Nat) :
      Hears a news (a'.work now i)

namespace Hears
variable {a a' a'' : Audience} {news news' : List Notice}

theorem trans (first : Hears a news a') (second : Hears a' news' a'') :
    Hears a (news ++ news') a'' := by
  induction second with
  | refl => simpa using first
  | told before n ih => simpa using ih.told n
  | worked before now i ih => exact ih.worked now i

theorem clock (hears : Hears a news a') : a'.clock = a.clock := by
  induction hears with
  | refl => rfl
  | told before n ih => exact ih
  | worked before now i ih => rw [Audience.clock_work, ih]

theorem of_nobody (hears : Hears a news a') (nobody : a.listeners = #[]) : a' = a := by
  induction hears with
  | refl => rfl
  | told before n ih =>
    rw [ih, Audience.tell, nobody, Array.map_empty, ← nobody]
  | worked before now i ih => simp [ih, Audience.work, nobody]

end Hears

section
variable {α : Type} {calm : Prop} {a b : Activity α} {log : List Exchange} {fate : Option Fate}
  {s₀ s s' : Scene}

theorem audience_listen (s : Scene) (l : Listener) : (s.listen l).audience = s.audience.add l :=
  (Unheard.ofReordered (.wake { s with audience := s.audience.add l } _)).audience

def Scene.news (s : Scene) (run : Run) : List Notice :=
  (run.story.drop s.run.story.length).map fun t => ⟨t, s.secs⟩

theorem transitions_news (s : Scene) (run : Run) :
    (s.news run).map Notice.toTransition = run.story.drop s.run.story.length := by
  simp [Scene.news, Function.comp_def]

theorem clocks_news (s : Scene) (run : Run) : s.audience.Clocks (s.news run) := by
  intro n mem
  obtain ⟨t, _, rfl⟩ := List.mem_map.mp mem
  exact ⟨_, rfl⟩

theorem hears_see (s : Scene) (run : Run) : Hears s.audience (s.news run) (s.see run).audience := by
  unfold Scene.see Scene.news
  generalize run.story.drop s.run.story.length = news
  have told (s' : Scene) (same : s'.secs = s.secs) : Hears s'.audience
      (news.map fun t => ⟨t, s.secs⟩) (news.foldl (fun s t =>
        { s with audience := s.audience.tell ⟨t, s.secs⟩ }.wakeAll
          (s.audience.idle.map Player.listener)) s').audience := by
    induction news generalizing s' with
    | nil => exact .refl _
    | cons t rest ih =>
      have woken := Reordered.wakeAll { s' with audience := s'.audience.tell ⟨t, s'.secs⟩ }
        (s'.audience.idle.map Player.listener)
      have one : Hears s'.audience [⟨t, s.secs⟩] ({ s' with audience := s'.audience.tell ⟨t, s'.secs⟩
          }.wakeAll (s'.audience.idle.map Player.listener)).audience := by
        rw [(Unheard.ofReordered woken).audience, same]
        exact (Hears.refl s'.audience).told ⟨t, s.secs⟩
      exact one.trans (ih _ (woken.secs.trans same))
  exact told { s with run := run } rfl

theorem hears_onward {run : Run} (onward : Onward s.run run) :
    ∃ news, Hears s.audience news (s.see run).audience ∧
      run.story = s.run.story ++ news.map Notice.toTransition ∧ s.audience.Clocks news := by
  obtain ⟨news, story, _⟩ := onward
  refine ⟨s.news run, hears_see s run, ?_, clocks_news s run⟩
  rw [transitions_news, story, List.drop_left]

theorem Meanwhile.hears (step : Meanwhile s s') : Hears s.audience [] s'.audience := by
  cases step with
  | read handle =>
    rw [(Unheard.residentReads s handle).audience]
    exact .refl _
  | heard i =>
    rw [(Unheard.ofReordered (.listenerWorks s i)).audience]
    exact (Hears.refl s.audience).worked s.now i
  | reordered reordered =>
    rw [(Unheard.ofReordered reordered).audience]
    exact .refl _

theorem Staged.told (unfolds : a.Unfolds s₀.run) (staged : Staged calm a s₀ log b fate s) :
    ∃ news, Hears s₀.audience news s.audience ∧
      s.run.story = s₀.run.story ++ news.map Notice.toTransition ∧ s₀.audience.Clocks news ∧
      Onward s₀.run s.run ∧ b.Unfolds s.run := by
  induction staged with
  | opened => exact ⟨[], .refl _, (List.append_nil _).symm, List.forall_mem_nil _, .refl _, unfolds⟩
  | @begun log run call resume s before place ih =>
    obtain ⟨news, hears, story, clocked, since, onward, later⟩ := ih
    obtain ⟨more, seen, added, clocked'⟩ := hears_onward onward
    have made := Made.beginCall (s.see run) place call
    have here : (s.see run).run = run := (Aloof.see s run).run
    rw [Audience.Clocks, hears.clock] at clocked'
    refine ⟨news ++ more, ?_, ?_, List.forall_mem_append.mpr ⟨clocked, clocked'⟩, ?_, ?_⟩
    · rw [made.audience]
      exact hears.trans seen
    · rw [made.run, here, added, story, List.map_append, List.append_assoc]
    · rw [made.run, here]
      exact since.trans onward
    · rw [made.run, here]
      exact ⟨.refl run, later⟩
  | @looked log run call resume fate s before pending ih =>
    have looked := Looked.answer? s fate call
    rwa [looked.audience, looked.run]
  | @answered log run call resume fate s answer before given ih =>
    obtain ⟨news, hears, story, clocked, since, onward, later⟩ := ih
    have looked := Looked.answer? s fate call
    rw [looked.audience, looked.run]
    exact ⟨news, hears, story, clocked, since, (later answer).since onward⟩
  | meanwhile before step ih =>
    obtain ⟨news, hears, story, clocked, since, onward⟩ := ih
    rw [step.aloof.run]
    exact ⟨news, by simpa using hears.trans step.hears, story, clocked, since, onward⟩
  | passed before time idle ih => exact ih

theorem Lull.hears (lull : Lull s s') : Hears s.audience [] s'.audience := by
  induction lull with
  | refl => exact .refl _
  | meanwhile before step ih => simpa using ih.trans step.hears
  | passed before time ih => exact ih
  | left before ih => exact ih

end
end Rehearsal
end FlowRuntime
