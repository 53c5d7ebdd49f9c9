import FlowRuntime.Proofs.Listener.Effort
import FlowRuntime.Proofs.Rehearsal.Hearing
import FlowRuntime.Proofs.Run.Stream

/-!
Listeners in a scene. They may be added at any time, before and after a run has ended, and may
work whenever and as slowly as they like, while the run goes on. We verify that each of them
is told exactly what there is to hear since it was added, whatever becomes of the others; and
that once the run has ended, all of them are over if they are only given their turns.
-/
namespace FlowRuntime

namespace Audience
variable {a : Audience} {l₀ : Listener} {told : List Notice} {k : Nat}

def workOn (a : Audience) (now i most : Nat) : Audience :=
  match a.listeners[i]? with
  | none => a
  | some l =>
    let (l, ledger) := l.workOn most now a.ledger
    { a with listeners := a.listeners.setIfInBounds i l, ledger := ledger }

/-- Listener number `k` was added as `l₀`, and this is what it has been told since. -/
def Tells (a : Audience) (k : Nat) (l₀ : Listener) (told : List Notice) : Prop :=
  ∃ l, a.listeners[k]? = some l ∧ l₀.Same l ∧ l.Receives told

theorem exists_workOn (a : Audience) (now i : Nat) : ∃ most, a.work now i = a.workOn now i most := by
  unfold work workOn
  cases a.listeners[i]? with
  | none => exact ⟨0, rfl⟩
  | some l =>
    refine ⟨l.inbox.pending.length, ?_⟩
    dsimp only
    rw [l.workOn_all (Nat.le_refl _)]

theorem getElem?_workOn (a : Audience) (now i most : Nat) (found : a.listeners[k]? = some l₀) :
    (a.workOn now i most).listeners[k]? =
      some (if i = k then (l₀.workOn most now a.ledger).1 else l₀) := by
  unfold workOn
  split
  · rename_i absent
    rw [if_neg, found]
    rintro rfl
    rw [absent] at found
    cases found
  · rename_i l here
    rw [Array.getElem?_setIfInBounds]
    split
    · rename_i same
      subst same
      rw [found] at here
      cases here
      simp [(Array.getElem?_eq_some_iff.mp found).1]
    · exact found

theorem size_workOn (a : Audience) (now i most : Nat) :
    (a.workOn now i most).listeners.size = a.listeners.size := by
  unfold workOn
  split
  · rfl
  · exact Array.size_setIfInBounds

theorem Tells.tell (tells : a.Tells k l₀ told) {n : Notice}
    (ends : EndsOnce ((told ++ [n]).map Notice.toTransition)) (onward : n.source.isSome = true) :
    (a.tell n).Tells k l₀ (told ++ [n]) := by
  obtain ⟨l, found, same, receives⟩ := tells
  refine ⟨l.tell n, by simp [Audience.tell, found], same.trans ?_, receives.tell ends onward⟩
  rw [Listener.tell_eq]
  exact .withInbox l _

theorem Tells.workOn (tells : a.Tells k l₀ told) (now i most : Nat) :
    (a.workOn now i most).Tells k l₀ told := by
  obtain ⟨l, found, same, receives⟩ := tells
  refine ⟨_, a.getElem?_workOn now i most found, ?_⟩
  split
  · exact ⟨same.trans (l.works_workOn most now a.ledger).same, receives.workOn most now a.ledger⟩
  · exact ⟨same, receives⟩

theorem Tells.add (tells : a.Tells k l₀ told) (l : Listener) : (a.add l).Tells k l₀ told := by
  obtain ⟨l', found, rest⟩ := tells
  have within := (Array.getElem?_eq_some_iff.mp found).1
  refine ⟨l', ?_, rest⟩
  rw [Audience.add, Array.getElem?_push, if_neg (Nat.ne_of_lt within), found]

theorem tells_added (receives : l₀.Receives told) :
    (a.add l₀).Tells a.listeners.size l₀ told :=
  ⟨l₀, by simp [Audience.add], .refl l₀, receives⟩

end Audience

namespace Rehearsal
open Listener

theorem Hears.tells {a a' : Audience} {news told : List Notice} {k : Nat} {l₀ : Listener}
    (hears : Hears a news a') (tells : a.Tells k l₀ told)
    (ends : EndsOnce ((told ++ news).map Notice.toTransition))
    (onward : ∀ n ∈ news, n.source.isSome = true) : a'.Tells k l₀ (told ++ news) := by
  induction hears with
  | refl => simpa using tells
  | @told a' news before n ih =>
    rw [← List.append_assoc] at ends ⊢
    have earlier := ih (ends.of_prefix ((List.prefix_append _ _).map _))
      fun u mem => onward u (by simp [mem])
    exact earlier.tell ends (onward n (by simp))
  | @worked a' news before now i ih =>
    obtain ⟨most, same⟩ := a'.exists_workOn now i
    rw [same]
    exact (ih ends onward).workOn now i most

theorem Hears.size {a a' : Audience} {news : List Notice} (hears : Hears a news a') :
    a'.listeners.size = a.listeners.size := by
  induction hears with
  | refl => rfl
  | told before n ih => simpa [Audience.tell] using ih
  | @worked a' news before now i ih =>
    obtain ⟨most, same⟩ := a'.exists_workOn now i
    rw [same, Audience.size_workOn, ih]

inductive Added (s : Scene) : Listener → Prop where
  | hearer (name : String) (fears : Option RunState) (pace : List (Option Nat)) :
      Added s (.hearer (.added name fears pace s.inbox))
  | recorder : Added s (.recorder (.added s.run.context.options s.audience.policy s.inbox))

/-- What there is to those who listen: it is seen how the run has gone on, a listener is added or
works, as slowly as it may, or something happens that they do not notice. -/
inductive Airs (c : RunContext) (s : Scene) : Scene → Prop where
  | saw {run : Run} (seen : Seen c run) (onward : Onward s.run run) : Airs c s (s.see run)
  | listened {l : Listener} (added : Added s l) : Airs c s (s.listen l)
  | worked (i most : Nat) : Airs c s { s with audience := s.audience.workOn s.now i most }
  | unnoticed {s' : Scene} (run : s'.run = s.run)
      (listeners : s'.audience.listeners = s.audience.listeners) : Airs c s s'

def Aired (c : RunContext) : Scene → Scene → Prop := Relation.ReflTransGen (Airs c)

/-- From one scene to another everybody who listens is told this news, after all the rest. -/
def Brings (c : RunContext) (s s' : Scene) (news : List Notice) : Prop :=
  ∀ ⦃since : Run⦄ ⦃k : Nat⦄ ⦃l : Listener⦄ ⦃told : List Notice⦄, Seen c since → Onward since s.run →
    told.map Notice.toTransition = stream since s.run → s.audience.Tells k l told →
    (told ++ news).map Notice.toTransition = stream since s'.run ∧ s'.audience.Tells k l (told ++ news)

section
variable {c : RunContext} {s₁ s s' : Scene} {l : Listener}

theorem Added.receives (added : Added s l) : l.Receives s.inbox.pending := by
  cases added with
  | hearer name fears pace => exact receives_added rfl rfl (.heard rfl)
  | recorder => exact receives_added rfl rfl (.idle [] rfl)

theorem Airs.seen (airs : Airs c s s') (seen : Seen c s.run) :
    Seen c s'.run ∧ Onward s.run s'.run := by
  cases airs with
  | saw seen' onward =>
    rw [(Aloof.see s _).run]
    exact ⟨seen', onward⟩
  | listened added =>
    rw [(Aloof.listen s _).run]
    exact ⟨seen, .refl _⟩
  | worked => exact ⟨seen, .refl _⟩
  | unnoticed run =>
    rw [run]
    exact ⟨seen, .refl _⟩

theorem Aired.seen (aired : Aired c s s') (seen : Seen c s.run) :
    Seen c s'.run ∧ Onward s.run s'.run := by
  induction aired with
  | refl => exact ⟨seen, .refl _⟩
  | tail before step ih =>
    obtain ⟨seen', onward⟩ := step.seen ih.1
    exact ⟨seen', ih.2.trans onward⟩

theorem Airs.brings (accepted : c.flow.Accepted) (airs : Airs c s s') : ∃ news, Brings c s s' news := by
  cases airs with
  | @saw run seen' onward' =>
    refine ⟨s.news run, ?_⟩
    intro since k l told since_seen onward hears tells
    have storied := seen'.storied accepted
    have whole := stream_onward storied (since_seen.storied accepted) onward onward'
    have all : (told ++ s.news run).map Notice.toTransition = stream since run := by
      rw [List.map_append, hears, transitions_news, whole]
    have ends : EndsOnce (stream since run) := stream_endsOnce storied
    rw [← all] at ends
    rw [(Aloof.see s run).run]
    refine ⟨all, (hears_see s run).tells tells ends ?_⟩
    intro n mem
    apply source_of_mem_drop storied s.run.story.length
    rw [← transitions_news]
    exact List.mem_map_of_mem mem
  | listened =>
    refine ⟨[], ?_⟩
    intro since k l told _ _ hears tells
    rw [audience_listen, (Aloof.listen s _).run, List.append_nil]
    exact ⟨hears, tells.add _⟩
  | worked i most =>
    refine ⟨[], ?_⟩
    intro since k l told _ _ hears tells
    rw [List.append_nil]
    exact ⟨hears, tells.workOn _ _ _⟩
  | unnoticed run listeners =>
    refine ⟨[], ?_⟩
    rintro since k l told _ _ hears ⟨l', found, rest⟩
    rw [run, List.append_nil]
    exact ⟨hears, l', by rw [listeners, found], rest⟩

theorem Aired.brings (accepted : c.flow.Accepted) (seen : Seen c s.run) (aired : Aired c s s') :
    ∃ news, Brings c s s' news := by
  induction aired with
  | refl =>
    refine ⟨[], ?_⟩
    intro since k l told _ _ hears tells
    rw [List.append_nil]
    exact ⟨hears, tells⟩
  | tail before step ih =>
    obtain ⟨news, first⟩ := ih
    obtain ⟨more, second⟩ := step.brings accepted
    refine ⟨news ++ more, ?_⟩
    intro since k l told since_seen onward hears tells
    obtain ⟨hears', tells'⟩ := first since_seen onward hears tells
    rw [← List.append_assoc]
    exact second since_seen (onward.trans (Aired.seen before seen).2) hears' tells'

/-- A listener that is added at any time is told exactly what there is to hear from then on. -/
theorem tells_of_aired (accepted : c.flow.Accepted) (seen : Seen c s₁.run) (added : Added s₁ l)
    (aired : Aired c (s₁.listen l) s) :
    ∃ news, Brings c (s₁.listen l) s news ∧
      (s₁.inbox.pending ++ news).map Notice.toTransition = stream s₁.run s.run ∧
      s.audience.Tells s₁.audience.listeners.size l (s₁.inbox.pending ++ news) := by
  have same : (s₁.listen l).run = s₁.run := (Aloof.listen s₁ l).run
  obtain ⟨news, brings⟩ := aired.brings accepted (same ▸ seen)
  refine ⟨news, brings, brings seen (same ▸ .refl _) ?_ ?_⟩
  · rw [same]
    exact stream_self (seen.storied accepted) s₁.secs
  · rw [audience_listen]
    exact Audience.tells_added added.receives

theorem Airs.size (airs : Airs c s s') :
    s'.audience.listeners.size = s.audience.listeners.size ∨
      ∃ l, Added s l ∧ s' = s.listen l := by
  cases airs with
  | @saw run => exact .inl (hears_see s run).size
  | listened added => exact .inr ⟨_, added, rfl⟩
  | worked i most => exact .inl (s.audience.size_workOn s.now i most)
  | unnoticed _ listeners => exact .inl (by rw [listeners])

theorem Aired.exists_added (aired : Aired c s₁ s) (nobody : s₁.audience.listeners = #[]) {k : Nat}
    (there : k < s.audience.listeners.size) :
    ∃ s' l, Aired c s₁ s' ∧ Added s' l ∧ s'.audience.listeners.size = k ∧
      Aired c (s'.listen l) s := by
  induction aired with
  | refl => simp [nobody] at there
  | @tail s s' before step ih =>
    rcases step.size with same | ⟨l, added, rfl⟩
    · obtain ⟨s₀, l, first, added, here, later⟩ := ih (by rwa [← same])
      exact ⟨s₀, l, first, added, here, later.tail step⟩
    · rcases Nat.lt_or_ge k s.audience.listeners.size with earlier | last
      · obtain ⟨s₀, l', first, added', here, later⟩ := ih earlier
        exact ⟨s₀, l', first, added', here, later.tail step⟩
      · rw [audience_listen, Audience.add, Array.size_push] at there
        exact ⟨s, l, before, added, by omega, .refl⟩

theorem Aired.receives (accepted : c.flow.Accepted) (aired : Aired c s₁ s) (seen : Seen c s₁.run)
    (nobody : s₁.audience.listeners = #[]) {i : Nat} (found : s.audience.listeners[i]? = some l) :
    ∃ since told, Seen c since ∧ Onward since s.run ∧
      told.map Notice.toTransition = stream since s.run ∧ l.Receives told := by
  have within := (Array.getElem?_eq_some_iff.mp found).1
  obtain ⟨s', l₀, first, added, rfl, later⟩ := aired.exists_added nobody within
  have here : (s'.listen l₀).run = s'.run := (Aloof.listen s' l₀).run
  have seen' := (first.seen seen).1
  have onward := (Aired.seen later (here ▸ seen')).2
  rw [here] at onward
  obtain ⟨news, _, hears, l', there, _, receives⟩ := tells_of_aired accepted seen' added later
  rw [found] at there
  cases there
  exact ⟨s'.run, _, seen', onward, hears, receives⟩

/-! ### Turns -/

/-- A turn of a listener, for which it need not wait, and in which it works on something. -/
structure Turn (i : Nat) (s s' : Scene) : Prop where
  works : ∃ most, 0 < most ∧ s' = { s with audience := s.audience.workOn s.now i most }
  ready : ∀ l, s.audience.listeners[i]? = some l → l.isReady s.now = true

/-- All there ever is, from before anybody listens, if everybody has a turn again and again. -/
structure Airing (c : RunContext) (scenes : Nat → Scene) : Prop where
  nobody : (scenes 0).audience.listeners = #[]
  seen : Seen c (scenes 0).run
  airs : ∀ n, Airs c (scenes n) (scenes (n + 1))
  turns : ∀ n i, i < (scenes n).audience.listeners.size →
    ∃ m, n ≤ m ∧ Turn i (scenes m) (scenes (m + 1))

/-- After the end of the run a listener only comes nearer to its own. -/
theorem Airs.nearer (accepted : c.flow.Accepted) (airs : Airs c s s') (seen : Seen c s.run)
    (ended : s.run.state.isTerminal = true) {i : Nat} (found : s.audience.listeners[i]? = some l) :
    ∃ l', s'.audience.listeners[i]? = some l' ∧ l'.toDo ≤ l.toDo ∧
      (l.isOver = true → l'.isOver = true) := by
  cases airs with
  | @saw run seen' onward =>
    have same := (seen.storied accepted).nothing_after (seen'.storied accepted) onward ended
    have unheard : (s.see run).audience = s.audience := by
      unfold Scene.see
      rw [same, List.drop_length]
      rfl
    exact ⟨l, by rw [unheard, found], Nat.le_refl _, id⟩
  | listened added =>
    have within := (Array.getElem?_eq_some_iff.mp found).1
    refine ⟨l, ?_, Nat.le_refl _, id⟩
    rw [audience_listen, Audience.add, Array.getElem?_push, if_neg (Nat.ne_of_lt within), found]
  | worked j most =>
    refine ⟨_, s.audience.getElem?_workOn s.now j most found, ?_⟩
    split
    · refine ⟨(l.toDo_workOn most s.now s.audience.ledger).1, ?_⟩
      intro before
      by_contra going
      have still := ((l.works_workOn most s.now s.audience.ledger).opened (by simpa using going)).1
      simp [before] at still
    · exact ⟨Nat.le_refl _, id⟩
  | unnoticed _ listeners => exact ⟨l, by rw [listeners, found], Nat.le_refl _, id⟩

namespace Airing
variable {scenes : Nat → Scene} {n i : Nat}

theorem aired (airing : Airing c scenes) (n m : Nat) (later : n ≤ m) :
    Aired c (scenes n) (scenes m) := by
  induction later with
  | refl => exact .refl
  | step _ ih => exact ih.tail (airing.airs _)

theorem seen_at (airing : Airing c scenes) (n : Nat) : Seen c (scenes n).run :=
  ((airing.aired 0 n (Nat.zero_le n)).seen airing.seen).1

theorem ended_at (airing : Airing c scenes) (accepted : c.flow.Accepted)
    (ended : (scenes n).run.state.isTerminal = true) {m : Nat} (later : n ≤ m) :
    (scenes m).run.state.isTerminal = true := by
  have onward := ((airing.aired n m later).seen (airing.seen_at n)).2
  exact ((airing.seen_at n).storied accepted).still_ended ((airing.seen_at m).storied accepted)
    onward ended

theorem receives (airing : Airing c scenes) (accepted : c.flow.Accepted)
    (found : (scenes n).audience.listeners[i]? = some l) :
    ∃ since told, Seen c since ∧ Onward since (scenes n).run ∧
      told.map Notice.toTransition = stream since (scenes n).run ∧ l.Receives told :=
  (airing.aired 0 n (Nat.zero_le n)).receives accepted airing.seen airing.nobody found

theorem toDo_pos (airing : Airing c scenes) (accepted : c.flow.Accepted)
    (ended : (scenes n).run.state.isTerminal = true)
    (found : (scenes n).audience.listeners[i]? = some l) (going : l.isOver = false) : 0 < l.toDo := by
  obtain ⟨since, told, seen, onward, hears, receives⟩ := airing.receives accepted found
  obtain ⟨t, mem, last⟩ := (stream_ended_iff ((airing.seen_at n).storied accepted)
    (seen.storied accepted) onward).mpr ended
  rw [← hears] at mem
  obtain ⟨notice, among, rfl⟩ := List.mem_map.mp mem
  exact receives.toDo_pos going among last

theorem nearer_at (airing : Airing c scenes) (accepted : c.flow.Accepted)
    (ended : (scenes n).run.state.isTerminal = true)
    (found : (scenes n).audience.listeners[i]? = some l) {m : Nat} (later : n ≤ m) :
    ∃ l', (scenes m).audience.listeners[i]? = some l' ∧ l'.toDo ≤ l.toDo ∧
      (l.isOver = true → l'.isOver = true) := by
  induction later with
  | refl => exact ⟨l, found, Nat.le_refl _, id⟩
  | step later ih =>
    obtain ⟨l', here, less, still⟩ := ih
    obtain ⟨l'', next, less', still'⟩ := (airing.airs _).nearer accepted (airing.seen_at _)
      (airing.ended_at accepted ended later) here
    exact ⟨l'', next, Nat.le_trans less' less, still' ∘ still⟩

/-- After the end of the run every listener is over some time, and stays so. -/
theorem ends (airing : Airing c scenes) (accepted : c.flow.Accepted)
    (ended : (scenes n).run.state.isTerminal = true)
    (found : (scenes n).audience.listeners[i]? = some l) :
    ∃ m, ∀ m', m ≤ m' → ∃ l', (scenes m').audience.listeners[i]? = some l' ∧ l'.isOver = true := by
  -- By induction on how much it has left to do: each of its turns leaves it less.
  generalize left : l.toDo = toDo
  induction toDo using Nat.strong_induction_on generalizing n l with
  | _ toDo ih =>
  cases going : l.isOver with
  | true =>
    refine ⟨n, ?_⟩
    intro m later
    obtain ⟨l', here, _, still⟩ := airing.nearer_at accepted ended found later
    exact ⟨l', here, still going⟩
  | false =>
    have within := (Array.getElem?_eq_some_iff.mp found).1
    obtain ⟨m, later, ⟨most, something, works⟩, ready⟩ := airing.turns n i within
    obtain ⟨l', here, less, _⟩ := airing.nearer_at accepted ended found later
    have ended' := airing.ended_at accepted ended later
    have next : (scenes (m + 1)).audience.listeners[i]? =
        some (l'.workOn most (scenes m).now (scenes m).audience.ledger).1 := by
      rw [works]
      simpa using (scenes m).audience.getElem?_workOn (scenes m).now i most here
    cases going' : l'.isOver with
    | true =>
      refine ⟨m, ?_⟩
      intro m' later'
      obtain ⟨l'', there, _, still⟩ := airing.nearer_at accepted ended' here later'
      exact ⟨l'', there, still going'⟩
    | false =>
      have some_left := airing.toDo_pos accepted ended' here going'
      have fewer := (l'.toDo_workOn most (scenes m).now (scenes m).audience.ledger).2
        (ready l' here) some_left something
      exact ih _ (by omega) (airing.ended_at accepted ended' (Nat.le_succ m)) next rfl

theorem joins (airing : Airing c scenes) (accepted : c.flow.Accepted)
    (ended : (scenes n).run.state.isTerminal = true) {listeners : List Nat}
    (there : ∀ i ∈ listeners, i < (scenes n).audience.listeners.size) :
    ∃ m, ∀ m', m ≤ m' → (scenes m').audience.areOver listeners = true := by
  induction listeners with
  | nil => exact ⟨0, fun _ _ => rfl⟩
  | cons i rest ih =>
    obtain ⟨m, others⟩ := ih fun j mem => there j (List.mem_cons_of_mem i mem)
    have found := Array.getElem?_eq_getElem (there i List.mem_cons_self)
    obtain ⟨m', first⟩ := airing.ends accepted ended found
    refine ⟨max m m', ?_⟩
    intro k later
    obtain ⟨l, here, done⟩ := first k (by omega)
    have rests := others k (by omega)
    rw [Audience.areOver] at rests ⊢
    rw [List.all_cons, rests, here]
    simpa using done

end Airing

/-! ### When nothing is left to do -/

theorem Aired.exists_scenes (aired : Aired c s₁ s) : ∃ (scenes : Nat → Scene) (n : Nat),
    scenes 0 = s₁ ∧ (∀ k, k < n → Airs c (scenes k) (scenes (k + 1))) ∧
      ∀ m, n ≤ m → scenes m = s := by
  induction aired with
  | refl => exact ⟨fun _ => s₁, 0, rfl, fun _ none => absurd none (Nat.not_lt_zero _), fun _ _ => rfl⟩
  | @tail s' s before step ih =>
    obtain ⟨scenes, n, first, airs, last⟩ := ih
    refine ⟨fun k => if k ≤ n then scenes k else s, n + 1, ?_, ?_, ?_⟩
    · simpa using first
    · intro k within
      dsimp only
      rw [if_pos (Nat.le_of_lt_succ within)]
      split
      · exact airs k (by omega)
      · obtain rfl : k = n := by omega
        rwa [last k (Nat.le_refl k)]
    · intro m later
      exact if_neg (by omega)

theorem Aired.idle_turn (accepted : c.flow.Accepted) (aired : Aired c s₁ s) (seen : Seen c s₁.run)
    (nobody : s₁.audience.listeners = #[]) (ended : s.audience.listeners.all Listener.isOver = true)
    (i : Nat) : Turn i s s := by
  cases found : s.audience.listeners[i]? with
  | none =>
    have same : s.audience.workOn s.now i 1 = s.audience := by
      unfold Audience.workOn
      rw [found]
    refine ⟨⟨1, Nat.one_pos, by rw [same]⟩, ?_⟩
    intro l here
    rw [found] at here
    cases here
  | some l =>
    obtain ⟨within, here⟩ := Array.getElem?_eq_some_iff.mp found
    have done : l.isOver = true := here ▸ Array.all_eq_true.mp ended i within
    obtain ⟨since, told, _, _, _, receives⟩ := aired.receives accepted seen nobody found
    obtain ⟨_, _, shows⟩ := receives.settled done
    have unmoved : s.audience.listeners.setIfInBounds i l = s.audience.listeners := by
      rw [Array.setIfInBounds_def, dif_pos within, ← here, Array.set_getElem_self]
    have same : s.audience.workOn s.now i 1 = s.audience := by
      unfold Audience.workOn
      rw [found]
      dsimp only
      rw [receives.over_workOn done]
      dsimp only
      rw [unmoved]
    refine ⟨⟨1, Nat.one_pos, by rw [same]⟩, ?_⟩
    intro l' there
    rw [found] at there
    cases there
    exact shows.isReady s.now

theorem exists_airing (accepted : c.flow.Accepted) (aired : Aired c s₁ s) (seen : Seen c s₁.run)
    (nobody : s₁.audience.listeners = #[]) (ended : s.audience.listeners.all Listener.isOver = true) :
    ∃ scenes n, Airing c scenes ∧ ∀ m, n ≤ m → scenes m = s := by
  obtain ⟨scenes, n, first, airs, last⟩ := aired.exists_scenes
  refine ⟨scenes, n, ⟨first ▸ nobody, first ▸ seen, ?_, ?_⟩, last⟩
  · intro k
    rcases Nat.lt_or_ge k n with before | after
    · exact airs k before
    · rw [last k after, last (k + 1) (Nat.le_succ_of_le after)]
      exact .unnoticed rfl rfl
  · intro k i _
    refine ⟨max k n, Nat.le_max_left k n, ?_⟩
    rw [last _ (Nat.le_max_right k n), last _ (Nat.le_succ_of_le (Nat.le_max_right k n))]
    exact aired.idle_turn accepted seen nobody ended i

end
end Rehearsal
end FlowRuntime
