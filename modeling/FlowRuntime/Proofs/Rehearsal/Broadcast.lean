import FlowRuntime.Proofs.Rehearsal.Airing
import FlowRuntime.Proofs.Rehearsal.Serialized
import FlowRuntime.Proofs.Rehearsal.Startup

/-!
Rehearsals as those hear them who listen. Whatever is played, the run only goes on as it is seen
to, listeners are only added as things stand, and nobody else tells them anything. We
verify this of every part and every aside, and so of all moments of a rehearsal since its
run was started.
-/
namespace FlowRuntime.Rehearsal
open Operation

section
variable {c : RunContext} {s s' s'' s₀ : Scene}

theorem Aired.trans (first : Aired c s s') (second : Aired c s' s'') : Aired c s s'' :=
  Relation.ReflTransGen.trans first second

theorem aired_unheard (unheard : Unheard s s') : Aired c s s' :=
  .single (.unnoticed unheard.run (by rw [unheard.audience]))

theorem aired_listenerWorks (s : Scene) (i : Nat) : Aired c s (s.listenerWorks i) := by
  obtain ⟨most, same⟩ := s.audience.exists_workOn s.now i
  have worked : Airs c s { s with audience := s.audience.work s.now i } := by
    rw [same]
    exact .worked i most
  exact .head worked (aired_unheard (.ofReordered (.listenerWorks s i)))

theorem aired_meanwhile (step : Meanwhile s s') : Aired c s s' := by
  cases step with
  | read handle => exact aired_unheard (.residentReads s handle)
  | heard i => exact aired_listenerWorks s i
  | reordered reordered => exact aired_unheard (.ofReordered reordered)

theorem aired_workRound (s : Scene) (turns : Nat) : Aired c s (s.workRound turns) := by
  have steps := meanwhile_workRound s turns
  generalize s.workRound turns = s' at steps ⊢
  induction steps with
  | refl => exact .refl
  | tail before step ih => exact Aired.trans ih (aired_meanwhile step)

theorem aired_lull (lull : Lull s s') : Aired c s s' := by
  induction lull with
  | refl => exact .refl
  | meanwhile before step ih => exact ih.trans (aired_meanwhile step)
  | passed before time ih => exact ih.tail (.unnoticed rfl rfl)
  | left before ih => exact ih.tail (.unnoticed rfl rfl)

/-! ### Calls -/

section
variable {α : Type}

theorem aired_follow {place : Nat} {call : Call} {fate : Fate}
    {resume : call.Answer → Activity α} {now : Scene × Option call.Answer} (aired : Aired c s now.1)
    (onward : ∀ answer s', s'.run = now.1.run → Aired c s' (s'.drive place (resume answer)).1) :
    Aired c s (Scene.follow place call fate resume now).1 := by
  obtain ⟨s', _ | answer⟩ := now
  · exact aired
  · have dropped : Aired c s' (s'.dropCues (.part place)) := aired_unheard ⟨⟨rfl, rfl, rfl, rfl⟩, rfl⟩
    exact (aired.trans dropped).trans (onward answer _ rfl)

theorem aired_drive {a : Activity α} (unfolds : a.Unfolds s.run)
    (seen : ∀ log b, a.Leads log b → Seen c b.run) (place : Nat) :
    Aired c s (s.drive place a).1 := by
  induction a generalizing s with
  | done run x => exact .single (.saw (seen [] _ (.here _)) unfolds)
  | waiting run call resume ih =>
    have saw : Airs c s (s.see run) := .saw (seen [] _ (.here _)) unfolds.1
    have begun := Made.beginCall (s.see run) place call
    have looked := Looked.answer? ((s.see run).beginCall place call).1
      ((s.see run).beginCall place call).2 call
    have here := (looked.run.trans begun.run).trans (Aloof.see s run).run
    have asked : Aired c s (((s.see run).beginCall place call).1.answer?
        ((s.see run).beginCall place call).2 call).1 :=
      (Relation.ReflTransGen.single saw).tail
        (.unnoticed (looked.run.trans begun.run) (by rw [looked.audience, begun.audience]))
    rw [Scene.drive_waiting]
    apply aired_follow asked
    intro answer s' same
    refine ih answer ?_ ?_
    · rw [same, here]
      exact unfolds.2 answer
    · intro log b leads
      exact seen _ b (.next answer leads)

theorem aired_goOn {u : Undertaking α} (unfolds : ∀ answer, (u.resume answer).Unfolds s.run)
    (seen : ∀ answer log b, (u.resume answer).Leads log b → Seen c b.run) (place : Nat) :
    Aired c s (s.goOn place u).1 := by
  have looked := Looked.answer? s u.fate u.call
  have asked : Aired c s (s.answer? u.fate u.call).1 :=
    .single (.unnoticed looked.run (by rw [looked.audience]))
  rw [Scene.goOn_eq]
  apply aired_follow asked
  intro answer s' same
  refine aired_drive ?_ (seen answer) place
  rw [same, looked.run]
  exact unfolds answer

theorem aired_settleCall {now : Scene × (Undertaking Finding ⊕ Finding)} (aired : Aired c s now.1) :
    Aired c s (Scene.settleCall now).1 := by
  obtain ⟨s', u | finding⟩ := now
  · exact aired
  · exact aired.trans (aired_unheard (.ofReordered (.passTurn s')))

end

/-! ### Requests -/

section
variable {log : List Exchange} {series : List Service} {request : RunRequest}

theorem unfolds_answer (request : RunRequest) :
    Unfolds (Finding.ofAnswer <$> request.operation) :=
  unfolds_bind (unfolds_request request) fun _ => unfolds_pure _

theorem seen_of_leads {run : Run} {log' : List Exchange} {b : Activity Finding}
    (reached : Reached c log run)
    (leads : ((Finding.ofAnswer <$> request.operation) run).Leads log' b) : Seen c b.run := by
  obtain ⟨b', course, rfl⟩ := Activity.map_leads_iff.mp leads
  rw [Activity.map_run]
  exact .busy reached course

theorem Rests.aired_carryOut (rests : Rests s₀ series s) (reached : Reached c log s₀.run)
    (place : Nat) (request : RunRequest) : Aired c s (s.carryOut place request).1 := by
  apply aired_settleCall
  refine aired_drive (unfolds_answer request s.run) ?_ place
  intro log' b leads
  exact seen_of_leads (rests.serves.reached reached) leads

theorem Busy.aired_goOn {u : Undertaking Finding} (busy : Busy s₀ series request s (.inl u))
    (reached : Reached c log s₀.run) (place : Nat) :
    Aired c s (Scene.settleCall (s.goOn place u)).1 := by
  obtain ⟨s₁, rests, log', b, leads, ⟨run, rfl⟩, _, here, _⟩ := busy
  have unfolds := ((unfolds_answer request s₁.run).leads leads).here
  apply aired_settleCall
  refine Rehearsal.aired_goOn ?_ ?_ place
  · intro answer
    rw [here]
    exact unfolds.2 answer
  · intro answer log'' b' later
    exact seen_of_leads (rests.serves.reached reached) (leads.trans (.next answer later))

theorem aired_attend (s : Scene) (place : Nat) (a : Aside) : Aired c s (s.attend place a).1 := by
  cases a with
  | shutDown =>
    have told : Airs c s { s with world := s.world.shutDown } := .unnoticed rfl rfl
    exact .head told (aired_unheard (.ofReordered (.wakeAll _ _)))
  | listen name fears pace => exact .single (.listened (.hearer name fears pace))
  | record => exact .single (.listened .recorder)
  | sleep ms =>
    simp only [Scene.attend, Scene.rest]
    split
    · exact .refl
    · exact aired_unheard (.ofReordered (.cue _ _ _))
  | join =>
    have joined : Airs c s
        { s with audience := s.audience.join, joiners := s.joiners ++ [place] } := .unnoticed rfl rfl
    exact .head joined (aired_unheard (.ofReordered (.cue _ _ _)))
  | _ => exact .single (.unnoticed rfl rfl)

/-! ### Parts -/

variable {acts₀ acts : Nat → Act} {past : List (Nat × Service)} {current : Option (Nat × RunRequest)}
  {waiting : List (Nat × RunRequest)}

theorem Serial.aired_begin (serial : Serial s₀ acts₀ past current waiting s acts)
    (reached : Reached c log s₀.run) (place : Nat) (request : Request) :
    Aired c s (s.begin place request).1 := by
  cases request with
  | aside a => exact aired_attend s place a
  | turn r =>
    have turn := serial.turn
    cases current with
    | none =>
      cases serial.inHand with
      | free rests =>
        have taken : Aired c s { s with turn := some place } := .single (.unnoticed rfl rfl)
        have rests : Rests s₀ (past.map (·.2)) { s with turn := some place } :=
          rests.aloof ⟨rfl, rfl, rfl, rfl⟩
        simpa [Scene.begin, Scene.takeTurn, turn] using
          taken.trans (rests.aired_carryOut reached place r)
    | some e =>
      have held : s.turn.isNone = false := by simp [turn]
      simp only [Scene.begin, Scene.takeTurn, held]
      exact .single (.unnoticed rfl rfl)

theorem Serial.aired_seeTo (serial : Serial s₀ acts₀ past current waiting s acts)
    (reached : Reached c log s₀.run) (place : Nat) :
    Aired c s (s.seeTo place (acts place)).1 := by
  cases here : acts place with
  | ahead after request =>
    simp only [Scene.seeTo]
    split
    · exact serial.aired_begin reached place request
    · exact aired_unheard (.ofReordered (.cue _ _ _))
  | waiting due request =>
    simp only [Scene.seeTo]
    split
    · exact serial.aired_begin reached place request
    · exact .refl
  | inLine request =>
    simp only [Scene.seeTo]
    split
    · rename_i turn
      rcases serial.of_inLine here with ⟨rfl, rests⟩ | mem
      · exact rests.aired_carryOut reached place request
      · rw [serial.turn, Option.map_eq_some_iff] at turn
        obtain ⟨e, rfl, rfl⟩ := turn
        exact absurd rfl (serial.alone.2 (e.1, request) mem)
    · exact .refl
  | calling u =>
    obtain ⟨request, _, busy⟩ := serial.of_calling here
    exact busy.aired_goOn reached place
  | resting due =>
    simp only [Scene.seeTo]
    split <;> exact .refl
  | joining listeners due => exact .refl
  | ended time finding => exact .refl

theorem Pastime.aired (step : Pastime s s') : Aired c s s' := by
  cases step with
  | worked turns => exact aired_workRound s turns
  | passed time => exact aired_lull (Lull.refl.advance time)
  | entered place entrance =>
    have unstirred : Unheard s (s.unstir place) := ⟨⟨rfl, rfl, rfl, rfl⟩, rfl⟩
    exact aired_unheard (unstirred.trans (unheard_enter _ place entrance))

theorem Concert.aired {asked : List (Nat × RunRequest)} (concert : Concert s₀ acts₀ asked s acts)
    (free : s₀.turn = none) (unlined : s₀.line = []) (apart : ∀ place, (acts₀ place).IsApart)
    (reached : Reached c log s₀.run) : Aired c s₀ s := by
  induction concert with
  | opened => exact .refl
  | @seen asked s acts before place ih =>
    obtain ⟨past, current, waiting, _, serial⟩ := before.serial free unlined apart
    have unstirred : Serial s₀ acts₀ past current waiting (s.unstir place) acts :=
      serial.aloof ⟨rfl, rfl, rfl, rfl⟩ ⟨rfl, rfl⟩
    have left : Aired c s (s.unstir place) := .single (.unnoticed rfl rfl)
    exact (ih.trans left).trans (unstirred.aired_seeTo reached place)
  | meanwhile before step ih => exact ih.trans step.aired

end

/-! ### Plans -/

theorem aired_listenAll (p : Plan) (s : Scene) : Aired c s (p.listenAll s) := by
  unfold Plan.listenAll
  have recorded : Aired c s s.record := .single (.listened .recorder)
  generalize s.record = s' at recorded
  generalize p.listeners = listeners
  induction listeners generalizing s' with
  | nil => exact recorded
  | cons l rest ih => exact ih _ (recorded.tail (.listened (.hearer l.1 none l.2)))

theorem Interval.aired_resume (i : Interval) : Aired c i.scene i.resume :=
  .single (.unnoticed rfl rfl)

theorem Interval.aired_play {log : List Exchange} (i : Interval) (step : Step) (free : i.IsFree)
    (reached : Reached c log i.scene.run) : Aired c i.scene (i.play step).1.scene := by
  obtain ⟨asked, s, acts, concert, closed, _⟩ := i.carried_in_turn step free
  have played := concert.aired free.1 free.2 (Part.ofStep_apart step) reached
  rw [closed]
  exact (i.aired_resume.trans played).trans (aired_lull (lull_settle s))

/-- The intervals of a rehearsal, each of them when a step is over. -/
inductive Plan.Comes (p : Plan) (c : RunContext) : Interval → Prop where
  | started (granted : (p.start c).2.isGranted) : Comes p c (p.start c).1
  | played {i : Interval} (before : Comes p c i) {step : Step} {finding : Finding}
      (found : (i.play step).2.finding = some finding) : Comes p c (i.play step).1

/-- A scene of a rehearsal: in an interval, while a step is played, or after it, be it over or left. -/
inductive Plan.Stages (p : Plan) (c : RunContext) : Scene → Prop where
  | between {i : Interval} (comes : p.Comes c i) : Stages p c i.scene
  | during {i : Interval} {step : Step} {asked : List (Nat × RunRequest)} {s : Scene}
      {acts : Nat → Act} (comes : p.Comes c i)
      (concert : Concert i.resume (Part.ofStep 0 0 step).cast asked s acts) : Stages p c s
  | after {i : Interval} (comes : p.Comes c i) (step : Step) : Stages p c (i.play step).1.scene

theorem Interval.free_play (i : Interval) (step : Step) : (i.play step).1.IsFree := by
  obtain ⟨p, _, s, _, _, _, _, closed⟩ := concert_play i step
  rw [closed]
  exact i.free_close _ s

theorem Interval.reached_play {log : List Exchange} {finding : Finding} (i : Interval) (step : Step)
    (free : i.IsFree) (reached : Reached c log i.scene.run)
    (found : (i.play step).2.finding = some finding) :
    ∃ log', Reached c log' (i.play step).1.scene.run := by
  obtain ⟨_, _, _, _, _, _, whole⟩ := i.carried_in_turn step free
  obtain ⟨series, _, serialized⟩ := whole finding found
  exact ⟨_, serialized.serves.reached reached⟩

theorem Plan.aired (p : Plan) (accepted : c.flow.Accepted) (granted : (p.start c).2.isGranted) :
    ∃ s₀, Seen c s₀.run ∧ s₀.audience.listeners = #[] ∧ ∀ s, p.Stages c s → Aired c s₀ s := by
  obtain ⟨log, run, x, before, s₀, same, course, reordered, _, closed⟩ :=
    Plan.played_start accepted False.elim (Account.isGranted_iff.mp granted)
  cases same
  have blank : Blank False c (p.opening c) := blank_opening p c False.elim
  have reached : Reached c log run := .started course.leads
  have here : s₀.run = run := reordered.run.trans (Aloof.see before run).run
  have unheard : s₀.audience.listeners = #[] := by
    rw [audience_of_started blank course reordered]
    exact blank.unheard
  have interval {i : Interval} (comes : p.Comes c i) :
      i.IsFree ∧ (∃ log, Reached c log i.scene.run) ∧ Aired c s₀ i.scene := by
    induction comes with
    | started =>
      refine ⟨p.free_start c, ⟨log, ?_⟩, ?_⟩
      · rw [closed]
        have same : (p.listenAll s₀).settle.run = run :=
          ((aloof_settle _).run.trans (aloof_listenAll p s₀).run).trans here
        exact same ▸ reached
      · rw [closed]
        exact (aired_listenAll p s₀).trans (aired_lull (lull_settle _))
    | @played i before step finding found ih =>
      obtain ⟨free, ⟨log', reached'⟩, aired⟩ := ih
      exact ⟨i.free_play step, i.reached_play step free reached' found,
        aired.trans (i.aired_play step free reached')⟩
  refine ⟨s₀, .resting (here ▸ reached), unheard, ?_⟩
  intro s stages
  cases stages with
  | between comes => exact (interval comes).2.2
  | @during i step asked s acts comes concert =>
    obtain ⟨free, ⟨log', reached'⟩, aired⟩ := interval comes
    exact (aired.trans i.aired_resume).trans
      (concert.aired free.1 free.2 (Part.ofStep_apart step) reached')
  | @after i comes step =>
    obtain ⟨free, ⟨log', reached'⟩, aired⟩ := interval comes
    exact aired.trans (i.aired_play step free reached')

end
end FlowRuntime.Rehearsal
