import FlowRuntime.Proofs.Listener.Reception
import FlowRuntime.Proofs.Run.Transitions
import Mathlib.Data.List.TakeDrop

/-!
What there is to hear of a run, for one who comes to listen at some time: how the run stands, and
then every change of its state that follows. We verify that this ends with the end of the
run and not before, that it only ever grows, and that it grows by the same changes for
all who listen.
-/
namespace FlowRuntime

/-- What there has been to hear until now, for one who has listened since the run stood like that. -/
def stream (since now : Run) : List Transition :=
  if since.state.isTerminal then
    [⟨none, since.state, since.cause⟩, ⟨some since.state, since.state, since.cause⟩]
  else ⟨none, since.state, none⟩ :: now.story.drop since.story.length

theorem EndsOnce.of_prefix {told told' : List Transition} (ends : EndsOnce told')
    (earlier : told <+: told') : EndsOnce told := by
  obtain ⟨more, rfl⟩ := earlier
  intro t mem
  cases more with
  | nil => exact ends t (by simpa using mem)
  | cons head rest =>
    apply ends t
    rw [List.dropLast_append_of_ne_nil (by simp)]
    exact List.mem_append_left _ (List.dropLast_subset _ mem)

section
variable {c : RunContext} {since now later run : Run}

theorem Seen.storied (accepted : c.flow.Accepted) (seen : Seen c run) : Storied run := by
  cases seen with
  | starting leads => exact storied_starting leads
  | resting reached => exact reached.storied accepted
  | busy reached leads => exact reached.storied_of_leads accepted leads

/-! ### Ends and causes -/

theorem Storied.ended (storied : Storied run) (ended : run.state.isTerminal = true) :
    ∃ before t, run.story = before ++ [t] ∧ t.target = run.state := by
  have last := storied.path.last_eq
  rcases List.eq_nil_or_concat run.story with none | ⟨before, t, split⟩
  · rw [none] at last
    rw [last] at ended
    cases ended
  · refine ⟨before, t, by simpa using split, ?_⟩
    rw [split] at last
    simpa using last.symm

theorem latestCause_none {news : List Transition} (uncaused : ∀ t ∈ news, t.cause = none) :
    latestCause none news = none := by
  induction news with
  | nil => rfl
  | cons t rest ih =>
    rw [latestCause, List.foldl_cons, uncaused t List.mem_cons_self]
    exact ih fun u mem => uncaused u (List.mem_cons_of_mem t mem)

theorem Storied.cause_iff (storied : Storied run) : run.cause.isSome ↔ run.state = .error := by
  constructor
  · intro caused
    by_contra other
    have uncaused : ∀ t ∈ run.story, t.cause = none := by
      intro t mem
      by_contra given
      obtain ⟨_, failed⟩ := (storied.lawful t mem).caused.mp (Option.isSome_iff_ne_none.mpr given)
      obtain ⟨before, after, split⟩ := List.append_of_mem mem
      obtain rfl := storied.going.last split (by rw [failed]; rfl)
      have last := storied.path.last_eq
      rw [split] at last
      simp [failed] at last
      exact other last
    rw [storied.cause, latestCause_none uncaused] at caused
    cases caused
  · intro failed
    obtain ⟨before, t, split, target⟩ := storied.ended (by rw [failed]; rfl)
    rw [storied.cause, split, latestCause, List.foldl_append]
    have lawful := storied.lawful t (by simp [split])
    obtain ⟨source, _, given⟩ := t
    cases target.trans failed
    cases lawful
    rfl

theorem Storied.uncaused (storied : Storied run) (going : run.state.isTerminal = false) :
    run.cause = none := by
  by_contra caused
  have failed := storied.cause_iff.mp (Option.isSome_iff_ne_none.mpr caused)
  rw [failed] at going
  cases going

theorem Storied.nothing_after (storied : Storied now) (later : Storied run)
    (onward : Onward now run) (ended : now.state.isTerminal = true) : run.story = now.story := by
  obtain ⟨before, t, split, target⟩ := storied.ended ended
  obtain ⟨news, story, _⟩ := onward
  have whole : run.story = before ++ t :: news := by
    rw [story, split, List.append_assoc]
    rfl
  have last : news = [] := later.going.last whole (by rwa [target])
  rw [story, last, List.append_nil]

theorem Storied.still_ended (storied : Storied now) (later : Storied run) (onward : Onward now run)
    (ended : now.state.isTerminal = true) : run.state.isTerminal = true := by
  have same := storied.nothing_after later onward ended
  obtain ⟨news, story, path, _⟩ := onward
  obtain rfl : news = [] := by simpa [same] using story
  rw [path.last_eq]
  exact ended

/-! ### Streams -/

theorem stream_self (storied : Storied run) (secs : Int64) :
    (Inbox.added run.state run.cause secs).pending.map Notice.toTransition = stream run run := by
  unfold stream Inbox.added
  dsimp only
  split
  · rfl
  · rename_i going
    rw [List.drop_length, storied.uncaused (by simpa using going)]
    rfl

theorem stream_onward (storied : Storied later) (since_storied : Storied since)
    (first : Onward since now) (second : Onward now later) :
    stream since later = stream since now ++ later.story.drop now.story.length := by
  unfold stream
  split
  · rename_i ended
    have same := since_storied.nothing_after storied (first.trans second) ended
    have earlier := first.story_prefix.length_le
    rw [← same] at earlier
    rw [List.drop_eq_nil_of_le earlier, List.append_nil]
  · obtain ⟨told, earlier, _⟩ := first
    obtain ⟨news, story, _⟩ := second
    rw [story, earlier]
    simp

theorem source_of_mem_drop (storied : Storied now) (n : Nat) {t : Transition}
    (mem : t ∈ now.story.drop n) : t.source.isSome = true := by
  obtain ⟨edge, _, source, _⟩ := (storied.lawful t (List.mem_of_mem_drop mem)).edge
  rw [source]
  rfl

theorem stream_endsOnce (storied : Storied now) : EndsOnce (stream since now) := by
  unfold stream
  split
  · intro t mem
    rw [List.dropLast_cons_cons, List.dropLast_singleton] at mem
    rw [List.mem_singleton.mp mem]
    rfl
  · intro t mem
    cases rest : now.story.drop since.story.length with
    | nil => simp [rest] at mem
    | cons head tail =>
      rw [rest, List.dropLast_cons_cons] at mem
      rcases List.mem_cons.mp mem with rfl | later
      · rfl
      · rw [← rest, List.dropLast_drop_eq_drop_dropLast] at later
        have onward := storied.going t (List.mem_of_mem_drop later)
        rw [Transition.isLast, onward, Bool.and_false]

theorem stream_ended_iff (storied : Storied now) (since_storied : Storied since)
    (onward : Onward since now) :
    (∃ t ∈ stream since now, t.isLast = true) ↔ now.state.isTerminal = true := by
  obtain ⟨news, story, path, cause⟩ := onward
  have last := path.last_eq
  unfold stream
  split
  · rename_i ended
    have same := since_storied.nothing_after storied ⟨news, story, path, cause⟩ ended
    obtain rfl : news = [] := by simpa [same] using story
    rw [last]
    simp [Transition.isLast, ended]
  · rename_i going
    rw [story, List.drop_left]
    constructor
    · rintro ⟨t, mem, ends⟩
      rcases List.mem_cons.mp mem with rfl | later
      · cases ends
      · obtain ⟨before, after, split⟩ := List.append_of_mem later
        have terminal : t.target.isTerminal = true := by
          simp only [Transition.isLast, Bool.and_eq_true] at ends
          exact ends.2
        have whole : now.story = since.story ++ before ++ t :: after := by
          rw [story, split, List.append_assoc]
        obtain rfl := storied.going.last whole terminal
        rw [last, split]
        simpa using terminal
    · intro ended
      rcases List.eq_nil_or_concat news with none | ⟨before, t, split⟩
      · simp [none] at last
        rw [last] at ended
        exact absurd ended going
      · rw [split] at last
        refine ⟨t, by simp [split], ?_⟩
        have source := source_of_mem_drop storied since.story.length (t := t) (by simp [story, split])
        rw [Transition.isLast, source, Bool.true_and]
        simpa [last] using ended

end
end FlowRuntime
