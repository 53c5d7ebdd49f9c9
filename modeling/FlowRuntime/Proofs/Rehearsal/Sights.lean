import FlowRuntime.Proofs.Rehearsal.Mirrored
import FlowRuntime.Proofs.Rehearsal.Opening
import FlowRuntime.Proofs.Rehearsal.Startup

/-!
What can be seen of a run. Of each step: what was found and when, what was called and at which
time, and how the run stood then, with the story of its transitions, its counts and the cause
of its failure. Two rehearsals of a program may differ in who listens and how fast, and in what
becomes of records: in the store, in which attempts it refuses, in how long its answers take
and whether they ever come, and in when the recorder tries again. We verify that the one comes
to its end if the other does, in however many rounds, and that the same is then seen of both.
-/
namespace FlowRuntime.Rehearsal

open FlowRuntime.Rehearsal.Part

/-- What has been seen of a run when a step has been played, but for what listeners heard. -/
structure Sight where
  finding : Option Finding
  ms : Nat
  calls : List (Nat × LoggedCall)
  run : Run

def Sight.ofClosed (calls : List (Nat × LoggedCall)) (now : Interval × Account) : Sight :=
  ⟨now.2.finding.map Finding.muted, now.2.ms, calls, now.1.scene.run⟩

structure Brief where
  finding : Option Finding
  ms : Nat
  calls : List LoggedCall
  state : RunState
  counts : SortedMap String Nat

def Sight.brief (s : Sight) : Brief := ⟨s.finding, s.ms, s.calls.map (·.2), s.run.state, s.run.counts⟩

def Account.brief (a : Account) : Brief :=
  ⟨a.finding.map Finding.muted, a.ms, a.calls, a.state, a.counts⟩

namespace Interval

/-- A step that is played in so many rounds, and closed then. -/
def playIn (i : Interval) (rounds : Nat) (step : Step) : Interval × Account :=
  match i.resume.playRounds rounds (.ofStep 0 0 step) with
  | (p, s) => i.close (p.result?.map (·.2)) s

theorem play_eq (i : Interval) (step : Step) : i.play step = i.playIn Scene.roundsAhead step := by
  rw [Interval.play, Scene.play]
  rfl

def sight? (i : Interval) (rounds : Nat) (step : Step) : Option Sight :=
  (i.resume.callsTimed? rounds (.ofStep 0 0 step)).map fun calls =>
    .ofClosed calls (i.playIn rounds step)

def sights? (i : Interval) (rounds : Nat) : List Step → Option (List Sight)
  | [] => some []
  | step :: rest =>
    match i.sight? rounds step with
    | none => none
    | some sight =>
      if sight.finding.isNone then some [sight]
      else ((i.playIn rounds step).1.sights? rounds rest).map (sight :: ·)

end Interval

namespace Plan

def attended (p : Plan) (finding : Option Finding) (s : Scene) : Scene :=
  match finding with
  | some (.outcome (.ok _)) => p.listenAll s
  | _ => s

def startIn (p : Plan) (c : RunContext) (rounds : Nat) : Interval × Account :=
  match (p.opening c).begun.1.playRounds rounds (.solo 0 (p.opening c).begun.2) with
  | (q, s) =>
    let finding := q.result?.map (·.2)
    Interval.close ⟨p.opening c, .empty⟩ finding (p.attended finding s)

theorem start_eq (p : Plan) (c : RunContext) : p.start c = p.startIn c Scene.roundsAhead := by
  unfold Plan.start Plan.startIn Scene.play
  generalize Scene.roundsAhead = rounds
  rfl

def sight? (p : Plan) (c : RunContext) (rounds : Nat) : Option Sight :=
  ((p.opening c).begun.1.callsTimed? rounds (.solo 0 (p.opening c).begun.2)).map fun calls =>
    .ofClosed ((p.opening c).callsSince (p.opening c).begun.1 ++ calls) (p.startIn c rounds)

/-- What is seen of a rehearsal, if the start and each step come to their ends in so many rounds. -/
def sights? (p : Plan) (rounds : Nat) : Option (List Sight) :=
  match RunContext.ofProgram p.program p.options with
  | .error _ => some []
  | .ok c =>
    match p.sight? c rounds with
    | none => none
    | some sight =>
      match sight.finding with
      | some (.outcome (.ok _)) =>
        ((p.startIn c rounds).1.sights? rounds p.steps).map (sight :: ·)
      | _ => some [sight]

def briefs (p : Plan) : List Brief := (p.perform.start :: p.perform.steps).map Account.brief

/-- Whether two plans differ at most in who listens and in what becomes of records. -/
structure IsAkin (p p' : Plan) : Prop where
  program : p'.program = p.program
  options : p'.options = p.options
  limit : p'.limit = p.limit
  faults : p'.faults = p.faults
  steps : p'.steps.map Step.muted = p.steps.map Step.muted

end Plan

section
variable {s s' n : Scene} {i j : Interval} {p p' : Plan} {step step' : Step} {q : Part}
  {calls : List (Nat × LoggedCall)} {sight sight' : Sight} {c : RunContext} {rounds rounds' : Nat}

structure Joined (s s' : Scene) : Prop where
  noise : Noise s s'
  attentive : Attentive s s'
  cues : s'.cues = s.cues

theorem Joined.refl (s : Scene) : Joined s s := ⟨.refl s, ⟨rfl, rfl, fun _ => id, fun _ => id⟩, rfl⟩

theorem Joined.listen (joined : Joined s s') (l : Listener) : Joined s (s'.listen l) where
  noise := joined.noise.trans (.listen s' l)
  attentive := joined.attentive.trans (attentive_listen s' l)
  cues := joined.cues

theorem joined_attended (p : Plan) (finding : Option Finding) (s : Scene) :
    Joined s (p.attended finding s) := by
  unfold Plan.attended
  split
  · refine List.foldlRecOn p.listeners _ ((Joined.refl s).listen _) ?_
    intro s' joined l _
    exact joined.listen _
  · exact .refl s

theorem Vacant.joined (vacant : Vacant s) (joined : Joined s s') : Vacant s' := by
  obtain ⟨orderly, roused, ⟨held, free, within⟩, later⟩ := vacant
  obtain ⟨noise, attentive, cues⟩ := joined
  have orderly' := noise.orderly orderly
  have roused' := roused.attentive attentive
  obtain ⟨_, _, _, _, _, rfl⟩ := noise
  have cues : _ = s.cues := cues
  exact ⟨orderly', roused', ⟨held, free.same rfl rfl, within⟩, cues ▸ later⟩

theorem isSome_of_not_none {found : Option Finding} (some : ¬ found.isNone = true) : found.isSome :=
  Option.isNone_eq_false_iff.mp (Bool.eq_false_of_not_eq_true some)

/-! ### One rehearsal -/

/-- What is seen is what comes of a course, and what the account says; and if it came to something, the
next step begins with what is left of the course. -/
structure Shows (sight : Sight) (q : Part) (n : Scene) (now : Interval × Account) : Prop where
  finding : sight.finding = q.result?.map (·.2)
  ms : sight.ms = n.now
  run : sight.run = n.run
  brief : now.2.brief = sight.brief
  recess : sight.finding.isSome → Recess now.1.scene ∧ now.1.resume.hush = n.hush.renewed

theorem shows_close (i : Interval) (hush : n.hush = s.hush) (joined : Joined s s')
    (vacant : q.result?.isSome → Vacant s) (called : s.world.calls.reverse = calls.map (·.2)) :
    Shows (.ofClosed calls (i.close (q.result?.map (·.2)) s')) q.muted n
      (i.close (q.result?.map (·.2)) s') := by
  have settled := aloof_settle s'
  have run : s'.settle.run = s'.run := settled.run
  have unheard := joined.noise.hush_eq
  have now : s'.hush.now = n.hush.now := by rw [unheard, hush]
  have same : s'.hush.run = n.hush.run := by rw [unheard, hush]
  have finding : (q.result?.map (·.2)).map Finding.muted = q.muted.result?.map (·.2) := by
    rw [result?_muted, Option.map_map, Option.map_map]
    rfl
  refine ⟨finding, now, run.trans same, ?_, ?_⟩
  · have called' : s'.settle.world.calls.reverse = calls.map (·.2) := by
      have kept : s'.hush.world.calls = s.hush.world.calls := by rw [unheard]
      have settled : s'.settle.world.calls = s'.world.calls := settled.calls
      rw [settled, ← called]
      exact congrArg List.reverse kept
    have brief : (i.close (q.result?.map (·.2)) s').2.brief =
        ⟨(q.result?.map (·.2)).map Finding.muted, s'.now, s'.settle.world.calls.reverse,
          s'.settle.run.state, s'.settle.run.counts⟩ := rfl
    rw [brief, called']
    rfl
  · intro found
    have ended : q.result?.isSome := by
      have muted : ((q.result?.map (·.2)).map Finding.muted).isSome := found
      rwa [Option.isSome_map, Option.isSome_map] at muted
    obtain ⟨recess, resumed⟩ := ((vacant ended).joined joined).settle
    refine ⟨recess, ?_⟩
    rw [hush, ← unheard]
    exact resumed _

/-- What is seen of a step is what comes of its course with nobody else. -/
theorem Recess.shown (recess : Recess i.scene) (mild : step.IsMild)
    (seen : i.sight? rounds step = some sight) :
    ∃ q n, Course (Part.ofStep 0 0 step).muted i.resume.hush sight.calls q n ∧
      Shows sight q n (i.playIn rounds step) := by
  obtain ⟨calls, timed, rfl⟩ := Option.map_eq_some_iff.mp seen
  obtain ⟨n, course, hush, called, vacant⟩ := recess.resume.plays mild timed
  exact ⟨_, n, course, shows_close i hush (.refl _) vacant called⟩

theorem Recess.seen (recess : Recess i.scene) (mild : step.IsMild)
    (course : Course (Part.ofStep 0 0 step).muted i.resume.hush calls q n) :
    ∃ rounds sight, i.sight? rounds step = some sight := by
  obtain ⟨rounds, comes⟩ := recess.resume.comes mild course
  obtain ⟨calls, timed⟩ := Option.isSome_iff_exists.mp comes
  exact ⟨rounds, _, by rw [Interval.sight?, timed, Option.map_some]⟩

theorem Plan.shown (seen : p.sight? c rounds = some sight) :
    ∃ q n calls, Course (.solo 0 (p.opening c).hush.begun.2) (p.opening c).hush.begun.1 calls q n ∧
      sight.calls = (p.opening c).hush.callsSince (p.opening c).hush.begun.1 ++ calls ∧
      Shows sight q n (p.startIn c rounds) := by
  obtain ⟨calls, timed, rfl⟩ := Option.map_eq_some_iff.mp seen
  obtain ⟨same, tandem, since, acts, begun, poised⟩ := poised_begun p c
  obtain ⟨n, course, hush, called, vacant⟩ := poised.takesCourse tandem timed
  have alone : (Part.solo 0 (p.opening c).begun.2).muted = .solo 0 (p.opening c).hush.begun.2 := by
    rw [same, Part.muted]
  have news : (p.opening c).hush.callsSince (p.opening c).hush.begun.1 =
      (p.opening c).callsSince (p.opening c).begun.1 := by
    obtain ⟨_, _, _, _, _, _, _, frame⟩ := tandem.alike.frame
    exact callsSince_congr rfl (by rw [frame]) (by rw [frame])
  rw [alone] at course
  refine ⟨_, n, calls, course, ?_, ?_⟩
  · rw [news]
    rfl
  · refine shows_close _ hush (joined_attended p _ _) vacant ?_
    have uncalled : (p.opening c).world.calls = [] := rfl
    rw [called, callsSince_calls since, uncalled, List.reverse_nil, List.nil_append, List.map_append]

theorem Plan.seen (course : Course (.solo 0 (p.opening c).hush.begun.2) (p.opening c).hush.begun.1 calls q n) :
    ∃ rounds sight, p.sight? c rounds = some sight := by
  obtain ⟨same, tandem, _, acts, begun, poised⟩ := poised_begun p c
  have alone : (Part.solo 0 (p.opening c).begun.2).muted = .solo 0 (p.opening c).hush.begun.2 := by
    rw [same, Part.muted]
  rw [← alone] at course
  obtain ⟨rounds, comes⟩ := poised.comes tandem course
  obtain ⟨calls, timed⟩ := Option.isSome_iff_exists.mp comes
  exact ⟨rounds, _, by rw [Plan.sight?, timed, Option.map_some]⟩

/-! ### What is seen of several steps -/

/-- What is seen of steps, each in so many rounds, up to the first that is left before it has ended. -/
inductive Interval.Seen (rounds : Nat) : Interval → List Step → List Sight → Prop where
  | nil (i : Interval) : Interval.Seen rounds i [] []
  | left {i : Interval} {step : Step} {sight : Sight} (rest : List Step)
      (first : i.sight? rounds step = some sight) (none : sight.finding.isNone) :
      Interval.Seen rounds i (step :: rest) [sight]
  | next {i : Interval} {step : Step} {sight : Sight} {rest : List Step} {sights : List Sight}
      (first : i.sight? rounds step = some sight) (found : sight.finding.isSome)
      (later : Interval.Seen rounds (i.playIn rounds step).1 rest sights) :
      Interval.Seen rounds i (step :: rest) (sight :: sights)

theorem Interval.sights?_iff {steps : List Step} {sights : List Sight} :
    i.sights? rounds steps = some sights ↔ i.Seen rounds steps sights := by
  constructor
  · intro seen
    induction steps generalizing i sights with
    | nil =>
      cases seen
      exact .nil i
    | cons step rest ih =>
      rw [Interval.sights?] at seen
      cases first : i.sight? rounds step with
      | none =>
        rw [first] at seen
        cases seen
      | some sight =>
        rw [first] at seen
        dsimp only at seen
        by_cases none : sight.finding.isNone = true
        · rw [if_pos none] at seen
          cases seen
          exact .left rest first none
        · rw [if_neg none] at seen
          obtain ⟨later, after, rfl⟩ := Option.map_eq_some_iff.mp seen
          exact .next first (isSome_of_not_none none) (ih after)
  · intro seen
    induction seen with
    | nil i => rfl
    | left rest first none =>
      rw [Interval.sights?, first]
      exact if_pos none
    | next first found later ih =>
      rw [Interval.sights?, first, ih]
      exact if_neg (by simpa [Option.isSome_iff_ne_none] using found)

/-- The same of a start, and of the steps that follow if there comes a run of it. -/
inductive Plan.Seen (p : Plan) (c : RunContext) (rounds : Nat) : List Sight → Prop where
  | granted {sight : Sight} {sights : List Sight} (first : p.sight? c rounds = some sight)
      (found : sight.finding = some (.outcome (.ok ())))
      (later : (p.startIn c rounds).1.Seen rounds p.steps sights) : Plan.Seen p c rounds (sight :: sights)
  | ungranted {sight : Sight} (first : p.sight? c rounds = some sight)
      (other : sight.finding ≠ some (.outcome (.ok ()))) : Plan.Seen p c rounds [sight]

theorem Plan.sights?_iff (made : RunContext.ofProgram p.program p.options = .ok c)
    {sights : List Sight} : p.sights? rounds = some sights ↔ p.Seen c rounds sights := by
  rw [Plan.sights?, made]
  dsimp only
  constructor
  · intro seen
    cases first : p.sight? c rounds with
    | none =>
      rw [first] at seen
      cases seen
    | some sight =>
      rw [first] at seen
      dsimp only at seen
      split at seen
      next found =>
        obtain ⟨later, after, rfl⟩ := Option.map_eq_some_iff.mp seen
        exact .granted first found (Interval.sights?_iff.mp after)
      next other =>
        cases seen
        exact .ungranted first fun found => other () found
  · intro seen
    cases seen with
    | granted first found later =>
      rw [first]
      dsimp only
      rw [found, Interval.sights?_iff.mpr later]
      rfl
    | @ungranted sight first other =>
      rw [first]
      dsimp only
      split
      next found => exact absurd found other
      next => rfl

/-! ### More rounds -/

theorem Interval.sight?_add (seen : i.sight? rounds step = some sight) (more : Nat) :
    i.sight? (rounds + more) step = some sight ∧
      i.playIn (rounds + more) step = i.playIn rounds step := by
  obtain ⟨calls, timed, rfl⟩ := Option.map_eq_some_iff.mp seen
  obtain ⟨timed', played⟩ := callsTimed?_add timed more
  have same : i.playIn (rounds + more) step = i.playIn rounds step := by
    rw [Interval.playIn, Interval.playIn, played]
  rw [Interval.sight?, timed', same]
  exact ⟨rfl, rfl⟩

theorem Interval.Seen.add {steps : List Step} {sights : List Sight} (seen : i.Seen rounds steps sights)
    (more : Nat) : i.Seen (rounds + more) steps sights := by
  induction seen with
  | nil i => exact .nil i
  | left rest first none => exact .left rest (Interval.sight?_add first more).1 none
  | next first found later ih =>
    obtain ⟨first', same⟩ := Interval.sight?_add first more
    exact .next first' found (same ▸ ih)

theorem Plan.sight?_add (seen : p.sight? c rounds = some sight) (more : Nat) :
    p.sight? c (rounds + more) = some sight ∧ p.startIn c (rounds + more) = p.startIn c rounds := by
  obtain ⟨calls, timed, rfl⟩ := Option.map_eq_some_iff.mp seen
  obtain ⟨timed', played⟩ := callsTimed?_add timed more
  have same : p.startIn c (rounds + more) = p.startIn c rounds := by
    rw [Plan.startIn, Plan.startIn, played]
  rw [Plan.sight?, timed', same]
  exact ⟨rfl, rfl⟩

theorem Plan.Seen.add {sights : List Sight} (seen : p.Seen c rounds sights) (more : Nat) :
    p.Seen c (rounds + more) sights := by
  cases seen with
  | granted first found later =>
    obtain ⟨first', same⟩ := Plan.sight?_add first more
    exact .granted first' found (same ▸ later.add more)
  | ungranted first other => exact .ungranted (Plan.sight?_add first more).1 other

theorem Plan.sights?_add {sights : List Sight} (seen : p.sights? rounds = some sights) (more : Nat) :
    p.sights? (rounds + more) = some sights := by
  cases made : RunContext.ofProgram p.program p.options with
  | error e =>
    rw [Plan.sights?, made] at seen ⊢
    exact seen
  | ok c => exact (Plan.sights?_iff made).mpr (((Plan.sights?_iff made).mp seen).add more)

theorem Plan.sights?_unique {sights sights' : List Sight} (seen : p.sights? rounds = some sights)
    (seen' : p.sights? rounds' = some sights') : sights' = sights := by
  have more := Plan.sights?_add seen rounds'
  have more' := Plan.sights?_add seen' rounds
  rw [Nat.add_comm, more, Option.some.injEq] at more'
  exact more'.symm

/-! ### Accounts -/

theorem Recess.shownAll (recess : Recess i.scene) {steps : List Step} (mild : ∀ step ∈ steps, step.IsMild)
    {sights : List Sight} (seen : i.Seen Scene.roundsAhead steps sights) :
    (i.playAll steps).2.map Account.brief = sights.map Sight.brief := by
  have shown {i : Interval} {step : Step} {sight : Sight} (recess : Recess i.scene) (mild : step.IsMild)
      (first : i.sight? Scene.roundsAhead step = some sight) :
      (i.play step).2.brief = sight.brief ∧
        (i.play step).2.finding.isNone = sight.finding.isNone ∧
        (sight.finding.isSome → Recess (i.play step).1.scene) := by
    obtain ⟨q, n, _, shows⟩ := recess.shown mild first
    rw [← Interval.play_eq] at shows
    have same : (i.play step).2.finding.map Finding.muted = sight.finding :=
      congrArg Brief.finding shows.brief
    exact ⟨shows.brief, by rw [← same, Option.isNone_map], fun found => (shows.recess found).1⟩
  induction seen with
  | nil i => rfl
  | left rest first none =>
    obtain ⟨brief, same, _⟩ := shown recess (mild _ List.mem_cons_self) first
    rw [Interval.playAll]
    dsimp only
    rw [same, if_pos none, List.map_singleton, List.map_singleton, brief]
  | next first found later ih =>
    obtain ⟨here, others⟩ := List.forall_mem_cons.mp mild
    obtain ⟨brief, same, next⟩ := shown recess here first
    rw [← Interval.play_eq] at ih
    rw [Interval.playAll]
    dsimp only
    rw [same, if_neg (by simpa [Option.isSome_iff_ne_none] using found), List.map_cons, List.map_cons, brief, ih (next found) others]

theorem Plan.briefs_granted (made : RunContext.ofProgram p.program p.options = .ok c)
    (granted : (p.start c).2.finding = some (.outcome (.ok ()))) :
    p.briefs = (p.start c).2.brief :: ((p.start c).1.playAll p.steps).2.map Account.brief := by
  unfold Plan.briefs Plan.perform
  rw [made]
  dsimp only
  rw [granted]
  rfl

theorem Plan.briefs_ungranted (made : RunContext.ofProgram p.program p.options = .ok c)
    (ungranted : (p.start c).2.finding ≠ some (.outcome (.ok ()))) :
    p.briefs = [(p.start c).2.brief] := by
  unfold Plan.briefs Plan.perform
  rw [made]
  dsimp only
  split
  · rename_i granted
    exact absurd granted ungranted
  · rfl

theorem Finding.granted_iff {found : Option Finding} :
    found = some (.outcome (.ok ())) ↔ found.map Finding.muted = some (.outcome (.ok ())) := by
  simp [Option.map_eq_some_iff, Finding.muted_eq_outcome]

theorem Plan.briefs_eq (made : RunContext.ofProgram p.program p.options = .ok c)
    (mild : ∀ step ∈ p.steps, step.IsMild) {sights : List Sight}
    (seen : p.sights? Scene.roundsAhead = some sights) : p.briefs = sights.map Sight.brief := by
  have shown {sight : Sight} (first : p.sight? c Scene.roundsAhead = some sight) :
      (p.start c).2.brief = sight.brief ∧
        ((p.start c).2.finding = some (.outcome (.ok ())) ↔ sight.finding = some (.outcome (.ok ()))) ∧
        (sight.finding.isSome → Recess (p.start c).1.scene) := by
    obtain ⟨q, n, _, _, _, shows⟩ := Plan.shown first
    rw [← p.start_eq] at shows
    have same : (p.start c).2.finding.map Finding.muted = sight.finding :=
      congrArg Brief.finding shows.brief
    exact ⟨shows.brief, same ▸ Finding.granted_iff, fun found => (shows.recess found).1⟩
  cases (Plan.sights?_iff made).mp seen with
  | granted first found later =>
    obtain ⟨brief, same, recess⟩ := shown first
    rw [← p.start_eq] at later
    have recess := recess (by rw [found]; rfl)
    rw [p.briefs_granted made (same.mpr found), List.map_cons, brief, recess.shownAll mild later]
  | ungranted first other =>
    obtain ⟨brief, same, _⟩ := shown first
    rw [p.briefs_ungranted made (other ∘ same.mp), brief, List.map_singleton]

/-! ### Two rehearsals -/

/-- Two intervals between which there is no difference but in who listens. -/
structure Level (i j : Interval) : Prop where
  first : Recess i.scene
  second : Recess j.scene
  same : j.resume.hush = i.resume.hush

theorem Shows.agree {now now' : Interval × Account} (shows : Shows sight q n now)
    (shows' : Shows sight' q n now') (calls : sight'.calls = sight.calls) :
    sight' = sight ∧ (sight.finding.isSome → Level now.1 now'.1) := by
  have same : sight' = sight := by
    obtain ⟨finding, ms, log, run⟩ := sight
    obtain ⟨finding', ms', log', run'⟩ := sight'
    rw [Sight.mk.injEq]
    exact ⟨shows'.finding.trans shows.finding.symm, shows'.ms.trans shows.ms.symm, calls,
      shows'.run.trans shows.run.symm⟩
  refine ⟨same, fun found => ?_⟩
  obtain ⟨recess, hush⟩ := shows.recess found
  obtain ⟨recess', hush'⟩ := shows'.recess (same ▸ found)
  exact ⟨recess, recess', hush'.trans hush.symm⟩

theorem Level.seen (level : Level i j) (mild : step.IsMild) (mild' : step'.IsMild)
    (muted : step'.muted = step.muted) (seen : i.sight? rounds step = some sight) :
    ∃ rounds', j.sight? rounds' step' = some sight ∧
      (sight.finding.isSome → Level (i.playIn rounds step).1 (j.playIn rounds' step').1) := by
  obtain ⟨q, n, course, shows⟩ := level.first.shown mild seen
  rw [← level.same, ← ofStep_muted, ← muted, ofStep_muted] at course
  obtain ⟨rounds', sight', seen'⟩ := level.second.seen mild' course
  obtain ⟨q', n', course', shows'⟩ := level.second.shown mild' seen'
  obtain ⟨calls, rfl, rfl⟩ := course'.unique course
  obtain ⟨rfl, level⟩ := shows.agree shows' calls
  exact ⟨rounds', seen', level⟩

theorem Level.seenAll (level : Level i j) {steps steps' : List Step}
    (mild : ∀ step ∈ steps, step.IsMild) (mild' : ∀ step ∈ steps', step.IsMild)
    (muted : steps'.map Step.muted = steps.map Step.muted) {sights : List Sight}
    (seen : i.Seen rounds steps sights) : ∃ rounds', j.Seen rounds' steps' sights := by
  induction seen generalizing j steps' with
  | nil i =>
    obtain rfl := List.map_eq_nil_iff.mp muted
    exact ⟨0, .nil j⟩
  | @left i step sight rest first none =>
    obtain ⟨step', rest', rfl, here, later⟩ := List.map_eq_cons_iff.mp muted
    obtain ⟨rounds', first', _⟩ := level.seen (mild _ List.mem_cons_self) (mild' _ List.mem_cons_self)
      here first
    exact ⟨rounds', .left rest' first' none⟩
  | @next i step sight rest sights first found later ih =>
    obtain ⟨step', rest', rfl, here, muted⟩ := List.map_eq_cons_iff.mp muted
    obtain ⟨mild, milds⟩ := List.forall_mem_cons.mp mild
    obtain ⟨mild', milds'⟩ := List.forall_mem_cons.mp mild'
    obtain ⟨rounds₁, first', next⟩ := level.seen mild mild' here first
    obtain ⟨rounds₂, after⟩ := ih (next found) milds milds' muted
    -- as many rounds as it takes for this step and for each of the others
    obtain ⟨first', same⟩ := Interval.sight?_add first' rounds₂
    refine ⟨rounds₁ + rounds₂, .next first' found ?_⟩
    rw [same, Nat.add_comm]
    exact after.add rounds₁

/-! ### Plans that are akin -/

theorem Plan.IsAkin.symm (akin : p.IsAkin p') : p'.IsAkin p :=
  ⟨akin.program.symm, akin.options.symm, akin.limit.symm, akin.faults.symm, akin.steps.symm⟩

theorem Plan.IsAkin.hush_opening (akin : p.IsAkin p') : (p'.opening c).hush = (p.opening c).hush := by
  have limit := akin.limit
  have faults := akin.faults
  cases p
  cases p'
  subst limit faults
  rfl

theorem Plan.IsAkin.mild (akin : p.IsAkin p') (mild : ∀ step ∈ p.steps, step.IsMild) :
    ∀ step ∈ p'.steps, step.IsMild := by
  intro step mem
  have listed : step.muted ∈ p.steps.map Step.muted := akin.steps ▸ List.mem_map_of_mem mem
  obtain ⟨step', mem', same⟩ := List.mem_map.mp listed
  rw [← step.isMild_muted, ← same, step'.isMild_muted]
  exact mild step' mem'

theorem Plan.IsAkin.seenStart (akin : p.IsAkin p') (seen : p.sight? c rounds = some sight) :
    ∃ rounds', p'.sight? c rounds' = some sight ∧
      (sight.finding.isSome → Level (p.startIn c rounds).1 (p'.startIn c rounds').1) := by
  obtain ⟨q, n, calls, course, since, shows⟩ := Plan.shown seen
  rw [← akin.hush_opening] at course since
  obtain ⟨rounds', sight', seen'⟩ := Plan.seen course
  obtain ⟨q', n', calls', course', since', shows'⟩ := Plan.shown seen'
  obtain ⟨rfl, rfl, rfl⟩ := course'.unique course
  obtain ⟨rfl, level⟩ := shows.agree shows' (since'.trans since.symm)
  exact ⟨rounds', seen', level⟩

theorem Plan.IsAkin.seenAll (akin : p.IsAkin p') (mild : ∀ step ∈ p.steps, step.IsMild)
    {sights : List Sight} (seen : p.Seen c rounds sights) : ∃ rounds', p'.Seen c rounds' sights := by
  cases seen with
  | granted first found later =>
    obtain ⟨rounds₁, first', level⟩ := akin.seenStart first
    have level := level (by rw [found]; rfl)
    obtain ⟨rounds₂, after⟩ := level.seenAll mild (akin.mild mild) akin.steps later
    obtain ⟨first', same⟩ := Plan.sight?_add first' rounds₂
    refine ⟨rounds₁ + rounds₂, .granted first' found ?_⟩
    rw [same, Nat.add_comm]
    exact after.add rounds₁
  | ungranted first other =>
    obtain ⟨rounds', first', _⟩ := akin.seenStart first
    exact ⟨rounds', .ungranted first' other⟩

theorem Plan.IsAkin.made (akin : p.IsAkin p') :
    RunContext.ofProgram p'.program p'.options = RunContext.ofProgram p.program p.options := by
  rw [akin.program, akin.options]

theorem Plan.IsAkin.seen (akin : p.IsAkin p') (mild : ∀ step ∈ p.steps, step.IsMild)
    {sights : List Sight} (seen : p.sights? rounds = some sights) :
    ∃ rounds', p'.sights? rounds' = some sights := by
  cases made : RunContext.ofProgram p.program p.options with
  | error e =>
    refine ⟨0, ?_⟩
    rw [Plan.sights?, made] at seen
    rw [Plan.sights?, akin.made, made]
    exact seen
  | ok c =>
    obtain ⟨rounds', seen'⟩ := akin.seenAll mild ((Plan.sights?_iff made).mp seen)
    exact ⟨rounds', (Plan.sights?_iff (akin.made.trans made)).mpr seen'⟩

/-- In two rehearsals of a program that differ only in who listens and in what becomes of records, the
same is seen of the start and of each step: whatever is seen of the one, if it comes to its end, is seen
of the other, which then comes to its end, too. The accounts of the two say the same of the run. -/
theorem akin_seen_alike (akin : p.IsAkin p') (mild : ∀ step ∈ p.steps, step.IsMild) :
    (∀ sights, (∃ rounds, p.sights? rounds = some sights) ↔ ∃ rounds, p'.sights? rounds = some sights) ∧
    (∀ rounds rounds' sights sights', p.sights? rounds = some sights →
      p'.sights? rounds' = some sights' → sights' = sights) ∧
    ∀ sights sights', p.sights? Scene.roundsAhead = some sights →
      p'.sights? Scene.roundsAhead = some sights' → p'.briefs = p.briefs := by
  have mild' := akin.mild mild
  have same (rounds rounds' : Nat) (sights sights' : List Sight) (seen : p.sights? rounds = some sights)
      (seen' : p'.sights? rounds' = some sights') : sights' = sights := by
    obtain ⟨rounds'', seen''⟩ := akin.seen mild seen
    exact Plan.sights?_unique seen'' seen'
  refine ⟨fun sights => ⟨?_, ?_⟩, same, ?_⟩
  · rintro ⟨rounds, seen⟩
    exact akin.seen mild seen
  · rintro ⟨rounds, seen⟩
    exact akin.symm.seen mild' seen
  · intro sights sights' seen seen'
    cases made : RunContext.ofProgram p.program p.options with
    | error e =>
      unfold Plan.briefs Plan.perform
      rw [akin.made, made]
    | ok c =>
      rw [p'.briefs_eq (akin.made.trans made) mild' seen', p.briefs_eq made mild seen,
        same _ _ _ _ seen seen']

/-! Two instances of which one takes its time to be suspended. Every write is made at once and nobody
listens; or the store refuses some attempts, takes its time over others and never answers one, and those
who come to listen take their time, too. -/

def hushedPlan : Plan :=
  { strayPlan with
    faults := [⟨.suspend, some "stage", some 1, ⟨some 5, none⟩, none⟩]
    steps := [.together [(0, .one (.turn .suspend)), (2, .one (.aside (.heard "second")))],
      .one (.turn .resume), .one (.turn (.changeInstances "stage" 1))] }

def watchedPlan : Plan :=
  { hushedPlan with
    clock := fun ms => .ofNat ms
    policy := ⟨3, 2⟩
    refuses := fun n => n = 0 || n = 3
    delays := fun n => if n = 1 then some 7 else if n = 4 then none else some 1
    listeners := [("first", [some 2, none])]
    steps := [.together [(0, .one (.turn .suspend)), (2, .one (.aside (.listen "second" none [some 4])))],
      .one (.turn .resume), .one (.turn (.changeInstances "stage" 1))] }

theorem watched_akin : hushedPlan.IsAkin watchedPlan := ⟨rfl, rfl, rfl, rfl, rfl⟩

theorem watched_seen_alike : ∃ sights, hushedPlan.sights? Scene.roundsAhead = some sights ∧
    watchedPlan.sights? Scene.roundsAhead = some sights ∧ watchedPlan.briefs = hushedPlan.briefs := by
  have mild : ∀ step ∈ hushedPlan.steps, step.IsMild := by
    simp [hushedPlan, Step.IsMild, Step.AreMild, Request.IsMild, Aside.IsMild]
  obtain ⟨comes, same, briefs⟩ := akin_seen_alike watched_akin mild
  obtain ⟨sights, seen⟩ := Option.isSome_iff_exists.mp
    (show (hushedPlan.sights? Scene.roundsAhead).isSome by decide +kernel)
  obtain ⟨sights', seen'⟩ := Option.isSome_iff_exists.mp
    (show (watchedPlan.sights? Scene.roundsAhead).isSome by decide +kernel)
  obtain rfl := same _ _ _ _ seen seen'
  exact ⟨sights', seen, seen', briefs _ _ seen seen'⟩

end
end FlowRuntime.Rehearsal
