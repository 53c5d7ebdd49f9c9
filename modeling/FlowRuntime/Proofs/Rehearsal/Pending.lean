import FlowRuntime.Proofs.Rehearsal.Course
import FlowRuntime.Proofs.Rehearsal.Playing

/-!
Parts that are being played. Between two looks at a part, turns are given and time passes; we
verify that meanwhile everyone present has nothing to do or is stirred, and that a look is in
vain as long as an answer is awaited or nobody is stirred. So whoever listens, a part that is
played to its end takes the course that it takes alone.
-/
namespace FlowRuntime.Rehearsal

open FlowRuntime.Rehearsal.Part

/-- Nothing has been done about the parts, though they may have been stirred, and their answers may
have come. -/
structure Lapse (s s' : Scene) : Prop where
  orderly : s'.Orderly
  roused : Roused s'
  run : s'.run = s.run
  turn : s'.turn = s.turn
  line : s'.line = s.line
  joiners : s'.joiners = s.joiners
  calls : s'.world.calls = s.world.calls
  reaches : ∀ handle, s.Reaches handle → s'.Reaches handle
  unsent : ∀ i, s'.Unsent i → s.Unsent i
  size : s'.errands.size = s.errands.size
  known : s.AllKnown → s'.AllKnown
  due : ∀ time, s'.FanDue time → s.FanDue time
  cues : ∀ c ∈ s.cues, s'.now < c.time → c ∈ s'.cues
  later : ∀ c ∈ s'.cues, s'.now < c.time
  parts : ∀ c ∈ s'.cues, c.player.isPart = true → c ∈ s.cues
  once : s'.stirred.Nodup

/-- A part that may be seen to: nobody is involved who has not been come to. -/
structure Poised (p : Part) (s : Scene) (acts : Nat → Act) (seen : Nat → Prop) : Prop where
  onset : Onset [p] s s acts seen
  involved : ∀ q, s.Involves q → q ∈ p.present
  strangers : ∀ q ∉ p.seats, ¬ (acts q).TakesTurn
  alone : s.joiners = []
  within : ∀ q ∈ p.inner, seen q ∨ q ∈ s.stirred

/-- A part that has been seen to and is not over: whoever is not stirred has nothing to do now, nor has
anyone as long as an answer is awaited. -/
structure Pending (p : Part) (s : Scene) (acts : Nat → Act) : Prop
    extends Poised p s acts fun q => q ∈ p.present ∧ q ∉ s.stirred where
  abides : s.Abides
  rests : s.Awaits → ∀ q ∈ p.present, (acts q).Rests s
  unended : p.result? = none
  early : s.now ≤ deadline
  hurries : s.Awaits → s.now < deadline

structure Vacant (s : Scene) : Prop where
  orderly : s.Orderly
  roused : Roused s
  free : ∃ held, s.IsFree held ∧ s.run.Within held
  later : ∀ c ∈ s.cues, s.now < c.time

section
variable {s s' n : Scene} {p : Part} {acts : Nat → Act} {seen seen' : Nat → Prop} {act : Act}

/-! ### What does not change meanwhile -/

namespace Lapse

theorem isFree {held : List Handle} (lapse : Lapse s s') (free : s.IsFree held) : s'.IsFree held :=
  ⟨fun h mem => lapse.reaches h (free.reaches h mem), lapse.known free.known⟩

theorem minded {α : Type} {after : List Handle → Run → α → Prop} {u : Undertaking α}
    (lapse : Lapse s s') (minded : Minded after s u) : Minded after s' u := by
  obtain ⟨call, fate, resume⟩ := u
  cases call with
  | fanOut op targets =>
    obtain ⟨held, courteous, size, minds⟩ := minded
    refine ⟨held, ⟨courteous.apart, courteous.leaving, ?_, ?_⟩, lapse.size.trans size, minds⟩
    · exact fun h mem => lapse.reaches h (courteous.reaches h mem)
    · exact fun i t listed unsent => lapse.reaches t.2 (courteous.unsent i t listed (lapse.unsent i unsent))
  | bind | repartition | start =>
    obtain ⟨held, free, minds⟩ := minded
    exact ⟨held, lapse.isFree free, minds⟩

theorem actDue (lapse : Lapse s s') (act : Act) {time : Nat} (due : act.Due s' time) :
    act.Due s time := by
  cases act with
  | calling u =>
    obtain ⟨call, fate, resume⟩ := u
    cases call with
    | fanOut op targets => exact lapse.due time due
    | bind | repartition | start => exact due
  | ahead | waiting | inLine | resting | joining | ended => exact due

end Lapse

theorem Hosted.lapse (hosted : Hosted s acts seen) (lapse : Lapse s s') (now : s.now ≤ s'.now)
    (ripe : ∀ q, s.turn = some q → (acts q).IsRipe s' → q ∈ s'.stirred)
    (rests : ∀ q, seen' q → (acts q).Rests s' ∧ q ∉ s'.stirred) : Hosted s' acts seen' where
  placed q := by
    have placed := hosted.placed q
    constructor
    · exact placed.mild
    · intro u calls
      obtain ⟨turn, minded⟩ := placed.calling u calls
      exact ⟨lapse.turn.trans turn, lapse.minded minded⟩
    · rw [lapse.line, lapse.turn]
      exact placed.lined
    · rw [lapse.turn]
      exact placed.holds
    · rw [lapse.turn]
      exact ripe q
    · intro time due upcoming
      exact lapse.cues _ (placed.cued time (lapse.actDue _ due) (Nat.lt_of_le_of_lt now upcoming)) upcoming
    · exact fun seen => (rests q seen).1
    · exact fun seen mem => absurd mem (rests q seen).2
  free nobody := by
    obtain ⟨held, free, within⟩ := hosted.free nobody
    exact ⟨held, lapse.isFree free, lapse.run ▸ within⟩
  later := lapse.later
  once := lapse.once
  queue := lapse.line ▸ hosted.queue

theorem Hosted.mono (hosted : Hosted s acts seen) (fewer : ∀ q, seen' q → seen q) :
    Hosted s acts seen' :=
  { hosted with placed := fun q =>
      { hosted.placed q with
        rests := fun before => (hosted.placed q).rests (fewer q before)
        stirs := fun before => (hosted.placed q).stirs (fewer q before) } }

theorem known_of_ripe {α : Type} {u : Undertaking α} (ripe : u.IsRipe s) : s.AllKnown := by
  obtain ⟨call, fate, resume⟩ := u
  cases call with
  | fanOut op targets => exact ripe
  | bind | repartition | start => exact ripe.elim

theorem Hosted.calls (hosted : Hosted s acts seen) (awaits : s.Awaits) :
    ∃ q u, acts q = .calling u ∧ s.turn = some q := by
  by_contra nobody
  obtain ⟨held, free, _⟩ := hosted.free fun q u calls =>
    nobody ⟨q, u, calls, ((hosted.placed q).calling u calls).1⟩
  exact not_awaits_of_known free.known awaits

theorem Hosted.unripe (hosted : Hosted s acts seen) (nobody : s.Awaits ∨ s.stirred = []) (q : Nat)
    (holds : s.turn = some q) : ¬ (acts q).IsRipe s := by
  intro ripe
  rcases nobody with awaits | none
  · obtain ⟨q', u, calls, holds'⟩ := hosted.calls awaits
    rw [holds, Option.some.injEq] at holds'
    subst holds'
    rw [calls] at ripe
    exact not_awaits_of_known (known_of_ripe ripe) awaits
  · have stirred := (hosted.placed q).ripe holds ripe
    rw [none] at stirred
    cases stirred

/-! ### Who is present -/

theorem roles_ahead (members : List Part) (fresh : ∀ m ∈ members, m.IsFresh) (e : Nat × Act)
    (role : e ∈ rolesOf members) : ∃ after request, e.2 = .ahead after request := by
  cases members with
  | nil =>
    rw [rolesOf] at role
    cases role
  | cons p rest =>
    rw [rolesOf, List.mem_append] at role
    rcases role with here | there
    · exact fresh p List.mem_cons_self e here
    · exact roles_ahead rest (fun m mem => fresh m (List.mem_cons_of_mem _ mem)) e there

mutual

theorem ahead_of_absent (p : Part) (sound : p.IsSound) {e : Nat × Act} (role : e ∈ p.roles)
    (absent : e.1 ∉ p.present) : ∃ after request, e.2 = .ahead after request := by
  cases p with
  | solo place act =>
    rw [roles, List.mem_singleton] at role
    rw [present, role] at absent
    exact absurd (List.mem_singleton_self _) absent
  | ensemble place size entrance members =>
    rw [IsSound] at sound
    rw [roles] at role
    have among : e ∈ rolesOf members := by
      refine (List.mem_cons.mp role).resolve_left ?_
      rintro rfl
      cases entrance <;> simp [present] at absent
    rcases sound.1 with ⟨time, rfl⟩ | fresh
    · refine absentees_ahead members sound.2 among fun mem => absent ?_
      rw [present]
      exact List.mem_cons_of_mem _ mem
    · exact roles_ahead members fresh e among

theorem absentees_ahead (members : List Part) (sound : AreSound members) {e : Nat × Act}
    (role : e ∈ rolesOf members) (absent : e.1 ∉ presentOf members) :
    ∃ after request, e.2 = .ahead after request := by
  cases members with
  | nil =>
    rw [rolesOf] at role
    cases role
  | cons p rest =>
    rw [AreSound] at sound
    rw [rolesOf, List.mem_append] at role
    rw [presentOf, List.mem_append, not_or] at absent
    rcases role with here | there
    · exact ahead_of_absent p sound.1 here absent.1
    · exact absentees_ahead rest sound.2 there absent.2

end

mutual

theorem ended_of_result (p : Part) (found : p.result?.isSome) {e : Nat × Act} (role : e ∈ p.roles) :
    ∃ time finding, e.2 = .ended time finding := by
  cases p with
  | solo place act =>
    rw [roles, List.mem_singleton] at role
    subst role
    cases act with
    | ended time finding => exact ⟨time, finding, rfl⟩
    | ahead | waiting | inLine | calling | resting | joining => simp [result?] at found
  | ensemble place size entrance members =>
    cases entrance with
    | ahead | waiting => simp [result?] at found
    | begun time =>
      rw [result?, Option.isSome_map] at found
      rw [roles] at role
      rcases List.mem_cons.mp role with rfl | among
      · exact ⟨time, .done, rfl⟩
      · exact ended_of_results members found among

theorem ended_of_results (members : List Part) (found : (results? members).isSome) {e : Nat × Act}
    (role : e ∈ rolesOf members) : ∃ time finding, e.2 = .ended time finding := by
  cases members with
  | nil =>
    rw [rolesOf] at role
    cases role
  | cons p rest =>
    rw [results?] at found
    rw [rolesOf, List.mem_append] at role
    cases first : p.result? with
    | none => simp [first] at found
    | some one =>
      cases others : results? rest with
      | none => simp [first, others] at found
      | some more =>
        rcases role with here | there
        · exact ended_of_result p (by simp [first]) here
        · exact ended_of_results rest (by simp [others]) there

end

theorem Poised.role (poised : Poised p s acts seen) {q : Nat} (sits : q ∈ p.seats) :
    (q, acts q) ∈ p.roles := by
  obtain ⟨e, role, rfl⟩ := List.mem_map.mp sits
  rwa [poised.onset.embodied e (by rwa [rolesOf_singleton])]

theorem Poised.sound (poised : Poised p s acts seen) : p.IsSound := by
  have sound := poised.onset.sound
  rw [AreSound] at sound
  exact sound.1

theorem Poised.holder (poised : Poised p s acts seen) {q : Nat} (holds : s.turn = some q) :
    q ∈ p.present := by
  have takes := (poised.onset.duet.hosted.placed q).holds holds
  by_contra absent
  by_cases sits : q ∈ p.seats
  · obtain ⟨after, request, ahead⟩ := ahead_of_absent p poised.sound (poised.role sits) absent
    dsimp only at ahead
    rw [ahead] at takes
    exact takes
  · exact poised.strangers q sits takes

/-! ### Turns, time and looks in vain -/

namespace Served

theorem taken (served : Served s s') {i : Nat} {e : Errand} (stands : s.errands[i]? = some e)
    (waits : e ≠ .sent none) : s'.errands[i]? = some e := by
  rcases served.noted i with same | ⟨sent, _⟩
  · rw [same, stands]
  · rw [stands, Option.some.injEq] at sent
    exact absurd sent waits

theorem delayed (served : Served s s') {i : Nat} {time : Option Nat} {failure : Option String}
    (stands : s'.errands[i]? = some (.delayed time failure)) :
    s.errands[i]? = some (.delayed time failure) := by
  rcases served.noted i with same | ⟨_, outcome, came⟩
  · rw [← same, stands]
  · rw [came] at stands
    cases stands

theorem size (served : Served s s') : s'.errands.size = s.errands.size := by
  have as_many : s'.errands.map (fun _ => ()) = s.errands.map fun _ => () := by
    apply Array.ext_getElem?
    intro i
    rw [Array.getElem?_map, Array.getElem?_map]
    rcases served.noted i with same | ⟨sent, outcome, came⟩
    · rw [same]
    · rw [sent, came]
      rfl
  simpa using congrArg Array.size as_many

theorem unsent (served : Served s s') {i : Nat} (unsent : s'.Unsent i) : s.Unsent i := by
  intro e stands
  rcases served.noted i with still | ⟨_, outcome, came⟩
  · exact unsent e (still.trans stands)
  · obtain ⟨_, _, other⟩ := unsent _ came
    cases other

theorem known (served : Served s s') (known : s.AllKnown) : s'.AllKnown := by
  intro i here
  obtain ⟨outcome, heard⟩ := known i (served.size ▸ here)
  obtain ⟨e, stands, ended⟩ := Option.map_eq_some_iff.mp heard
  have waits : e ≠ .sent none := by
    rintro rfl
    cases ended
  exact ⟨outcome, by rw [served.taken stands waits, ← ended]; rfl⟩

theorem fanDue (served : Served s s') {time : Nat} (due : s'.FanDue time) : s.FanDue time := by
  rcases due with ⟨i, failure, stands⟩ | ⟨⟨i, out⟩, given⟩
  · exact .inl ⟨i, failure, served.delayed stands⟩
  · refine .inr ⟨⟨i, ?_⟩, ?_⟩
    · rcases served.noted i with still | ⟨sent, _⟩
      · rwa [Scene.isOut, ← still]
      · simp [Scene.isOut, sent, Errand.outcome?]
    · obtain ⟨_, _, _, _, _, _, rfl⟩ := served.frame
      exact given

end Served

theorem Served.lapse (served : Served s s') (hosted : Hosted s acts seen) (roused : Roused s') :
    Lapse s s' := by
  obtain ⟨residents, errands, audience, cues, stirred, called, same⟩ := served.frame
  refine ⟨served.orderly, roused, by rw [same], served.turn, by rw [same], served.joiners,
    by rw [same], served.reaches, fun i => served.unsent, served.size, served.known,
    fun time => served.fanDue, fun c mem _ => served.cues c mem, ?_, ?_, ?_⟩
  · intro c mem
    rw [served.now]
    rcases served.later c mem with before | later
    · exact hosted.later c before
    · exact later
  · intro c mem isPart
    have listed : c ∈ s'.partCues := List.mem_filter.mpr ⟨mem, isPart⟩
    rw [served.partCues] at listed
    exact List.mem_of_mem_filter listed
  · rcases served.stirred with ⟨_, still, _⟩ | ⟨_, holder⟩
    · rw [still]
      exact hosted.once
    · rw [holder]
      cases s.turn with
      | none => exact List.nodup_nil
      | some q => exact List.nodup_singleton q

theorem InVain.lapse (vain : InVain s s') (hosted : Hosted s acts seen) (orderly : s.Orderly)
    (roused : Roused s) : Lapse s s' := by
  obtain ⟨stirred, errands, same⟩ := vain.frame
  have orderly' := vain.orderly orderly
  have roused' : Roused s' := by
    rw [same]
    exact ⟨roused.mailed, roused.called⟩
  refine ⟨orderly', roused', by rw [same], vain.turn, by rw [same], by rw [same], by rw [same], ?_, ?_,
    vain.size, vain.known.mpr, fun _ => vain.fanDue, ?_, ?_, ?_, vain.stirred.nodup hosted.once⟩
  · intro handle reaches
    rw [same]
    exact reaches
  · intro i unsent e stands
    rcases vain.errands i with still | ⟨_, _, taken⟩
    · exact unsent e (still.trans stands)
    · obtain ⟨_, _, other⟩ := unsent _ taken
      cases other
  · rw [same]
    exact fun c mem _ => mem
  · rw [same]
    exact hosted.later
  · rw [same]
    exact fun c mem _ => mem

theorem lapse_advance (hosted : Hosted s acts seen) (orderly : s.Orderly) (roused : Roused s)
    (time : Nat) : Lapse s (s.advance time) := by
  have roused' := roused.attentive (attentive_advance s time)
  rw [advance_eq] at roused' ⊢
  refine ⟨⟨orderly.going, orderly.past, orderly.posted, orderly.single⟩, roused', rfl, rfl, rfl, rfl,
    rfl, fun _ => id, fun _ => id, rfl, id, fun _ => id, ?_, ?_, ?_, nodup_stirAll hosted.once _⟩
  · exact fun c mem upcoming => List.mem_filter.mpr ⟨mem, by simpa using upcoming⟩
  · intro c mem
    simpa using (List.mem_filter.mp mem).2
  · exact fun c mem _ => List.mem_of_mem_filter mem

theorem Pending.lapse (pending : Pending p s acts) (lapse : Lapse s s') (now : s.now ≤ s'.now)
    (ripe : ∀ q, s.turn = some q → (acts q).IsRipe s' → q ∈ s'.stirred)
    (rests : ∀ q ∈ p.present, q ∉ s'.stirred → (acts q).Rests s')
    (stirred : ∀ q ∈ s'.stirred, q ∈ p.present)
    (abides : s'.Abides) (waits : s'.Awaits → ∀ q ∈ p.present, (acts q).Rests s')
    (early : s'.now ≤ deadline) (hurries : s'.Awaits → s'.now < deadline) : Pending p s' acts := by
  have involved (q : Nat) (involves : s'.Involves q) : q ∈ p.present := by
    rcases involves with here | here | ⟨time, here⟩
    · exact stirred q here
    · exact pending.involved q (.inr (.inl (lapse.line ▸ here)))
    · exact pending.involved q (.inr (.inr ⟨time, lapse.parts _ here rfl⟩))
  have hosted : Hosted s' acts fun q => q ∈ p.present ∧ q ∉ s'.stirred :=
    pending.onset.duet.hosted.lapse lapse now ripe fun q unstirred =>
      ⟨rests q unstirred.1 unstirred.2, unstirred.2⟩
  refine ⟨⟨⟨⟨.refl lapse.orderly lapse.roused, hosted⟩, pending.onset.embodied, pending.onset.sound,
    pending.onset.numbered, pending.onset.once, ?_⟩, involved, pending.strangers,
    lapse.joiners.trans pending.alone, ?_⟩, abides, waits, pending.unended, early, hurries⟩
  · intro q _ involves
    rw [presentOf_singleton]
    exact involved q involves
  · intro q mem
    by_cases here : q ∈ s'.stirred
    · exact .inr here
    · exact .inl ⟨inner_subset p mem, here⟩

theorem Pending.restsNow (pending : Pending p s acts) (nobody : s.Awaits ∨ s.stirred = []) :
    ∀ q ∈ p.present, (acts q).Rests s := by
  intro q mem
  rcases nobody with awaits | none
  · exact pending.rests awaits q mem
  · exact (pending.onset.duet.hosted.placed q).rests ⟨mem, by simp [none]⟩

theorem Pending.workRound (pending : Pending p s acts) (turns : Nat) :
    Pending p (s.workRound turns) acts ∧ (s.workRound turns).bare = s.bare ∧
      (s.workRound turns).world.calls = s.world.calls := by
  have hosted := pending.onset.duet.hosted
  have orderly := pending.onset.duet.tandem.orderly
  have served := Served.workRound orderly pending.abides pending.alone turns
  have lapse := served.lapse hosted (pending.onset.duet.tandem.roused.workRound turns)
  generalize s.workRound turns = s' at served lapse ⊢
  have kept (q : Nat) (rests : (acts q).Rests s) : (acts q).Rests s' := by
    refine ⟨rests.begun, ?_⟩
    intro time due
    rw [served.now]
    exact rests.later time (lapse.actDue _ due)
  refine ⟨pending.lapse lapse (Nat.le_of_eq served.now.symm) ?_ ?_ ?_ (served.abides pending.abides) ?_
    (served.now ▸ pending.early) ?_, served.bare_eq, lapse.calls⟩
  · intro q holds ripe
    rcases served.stirred with ⟨errands, still, _⟩ | ⟨_, holder⟩
    · rw [still]
      refine (hosted.placed q).ripe holds ?_
      cases act : acts q with
      | calling u =>
        rw [act] at ripe
        obtain ⟨call, fate, resume⟩ := u
        cases call with
        | fanOut op targets =>
          change s'.AllKnown at ripe
          change s.AllKnown
          simpa only [Scene.AllKnown, Scene.Knows, errands] using ripe
        | bind | repartition | start => exact ripe
      | ahead | waiting | inLine | resting | joining | ended =>
        rw [act] at ripe
        exact ripe
    · rw [holder, holds]
      exact List.mem_singleton_self q
  · intro q mem unstirred
    refine kept q ?_
    rcases served.stirred with ⟨_, still, _⟩ | ⟨awaits, _⟩
    · exact (hosted.placed q).rests ⟨mem, still ▸ unstirred⟩
    · exact pending.rests awaits q mem
  · intro q here
    rcases served.stirred with ⟨_, still, _⟩ | ⟨_, holder⟩
    · exact pending.involved q (.inl (still ▸ here))
    · rw [holder, Option.mem_toList] at here
      exact pending.holder here
  · exact fun awaits q mem => kept q (pending.rests (served.awaits awaits) q mem)
  · rw [served.now]
    exact fun awaits => pending.hurries (served.awaits awaits)

theorem Pending.unawaited_of_uncalled (pending : Pending p s acts) (uncalled : s.called = []) :
    ¬ s.Awaits := by
  apply not_awaits_of_read
  intro handle r found
  by_contra mail
  have roused := pending.onset.duet.tandem.roused
  have called := roused.called handle r found (roused.mailed handle r found mail)
  rw [uncalled] at called
  cases called

theorem Pending.unawaited (pending : Pending p s acts) (idle : s.isBusy = false) :
    s.stirred = [] ∧ ¬ s.Awaits := by
  simp only [Scene.isBusy, Bool.or_eq_false_iff, Bool.not_eq_false', List.isEmpty_iff] at idle
  exact ⟨idle.1, pending.unawaited_of_uncalled idle.2⟩

theorem Pending.advance (pending : Pending p s acts) (idle : s.isBusy = false) :
    Pending p (s.advance s.nextTime) acts ∧
      (s.advance s.nextTime).bare.proceed = s.bare.proceed := by
  obtain ⟨unstirred, unawaited⟩ := pending.unawaited idle
  have hosted := pending.onset.duet.hosted
  have tandem := pending.onset.duet.tandem
  have lapse := lapse_advance hosted tandem.orderly tandem.roused s.nextTime
  have now : (s.advance s.nextTime).now = s.nextTime := by rw [advance_eq]
  have later : s.now ≤ (s.advance s.nextTime).now := by
    rw [now]
    exact le_nextTime pending.early fun c mem => Nat.le_of_lt (hosted.later c mem)
  have awake {q : Nat} : q ∈ (s.advance s.nextTime).stirred ↔
      ∃ time, ⟨time, .part q⟩ ∈ s.cues ∧ time ≤ s.nextTime := by
    rw [mem_stirred_advance, unstirred]
    exact or_iff_right List.not_mem_nil
  have unawaited' : ¬ (s.advance s.nextTime).Awaits := by
    rw [advance_eq]
    exact unawaited
  constructor
  · refine pending.lapse lapse later ?_ ?_ ?_ (fun awaits => absurd awaits unawaited')
      (fun awaits => absurd awaits unawaited') (now.trans_le (nextTime_le_deadline s))
      (fun awaits => absurd awaits unawaited')
    · intro q holds ripe
      refine absurd ?_ (hosted.unripe (.inr unstirred) q holds)
      rw [advance_eq] at ripe
      exact ripe
    · intro q mem asleep
      have rests := pending.restsNow (.inr unstirred) q mem
      refine ⟨rests.begun, ?_⟩
      intro time due
      have before := lapse.actDue _ due
      by_contra past
      rw [now] at past
      exact asleep (awake.mpr ⟨time, (hosted.placed q).cued time before (rests.later time before),
        Nat.le_of_not_lt past⟩)
    · intro q mem
      obtain ⟨time, cued, _⟩ := awake.mp mem
      exact pending.involved q (.inr (.inr ⟨time, cued⟩))
  · have bare : s.bare.stirred = [] := by rw [Scene.bare, if_neg unawaited, unstirred]
    rw [bare_advance unawaited]
    refine proceed_advance bare ?_ ?_
    · exact fun c mem => (List.mem_filter.mp mem).2
    · refine le_nextTime (nextTime_le_deadline s) fun c mem => nextTime_le ?_
      exact List.mem_of_mem_filter mem

theorem Pending.onward (pending : Pending p s acts) :
    Pending p s.onward acts ∧ s.onward.bare.proceed = s.bare.proceed ∧
      s.onward.world.calls = s.world.calls := by
  unfold Scene.onward
  split
  · exact ⟨pending, rfl, rfl⟩
  · rename_i idle
    obtain ⟨pending', same⟩ := pending.advance (by simpa using idle)
    exact ⟨pending', same, by rw [advance_eq]⟩

theorem Pending.lookInVain (pending : Pending p s acts) (nobody : s.Awaits ∨ s.stirred = [])
    (early : s.now < deadline) : ∃ s', p.seeTo p.depth s = (p, s') ∧ InVain s s' ∧
      Pending p s' acts ∧ s'.bare = s.bare := by
  have hosted := pending.onset.duet.hosted
  have tandem := pending.onset.duet.tandem
  have unripe := hosted.unripe nobody
  have rests := pending.restsNow nobody
  have idle : AreIdle [p] s := by
    intro e role here
    rw [presentOf_singleton] at here
    rw [← pending.onset.embodied e role]
    have placed := hosted.placed e.1
    exact ⟨placed.mild, rests e.1 here, fun u calls => (placed.calling u calls).1, unripe e.1⟩
  obtain ⟨s', seen, vain⟩ := spared_of_idle p.depth idle
  have lapse := vain.lapse hosted tandem.orderly tandem.roused
  have idle' (q : Nat) (mem : q ∈ p.present) : (acts q).IsIdle q s' := by
    have placed := hosted.placed q
    exact vain.idle ⟨placed.mild, rests q mem, fun u calls => (placed.calling u calls).1, unripe q⟩
  refine ⟨s', seen, vain, ?_, vain.bare_eq nobody⟩
  refine pending.lapse lapse (Nat.le_of_eq vain.now.symm) ?_ ?_ ?_ ?_ ?_ (vain.now ▸ pending.early) ?_
  · intro q holds ripe
    exact absurd ripe ((idle' q (pending.holder holds)).unripe (vain.turn.trans holds))
  · exact fun q mem _ => (idle' q mem).rests
  · exact fun q mem => pending.involved q (.inl (vain.stirred.subset mem))
  · intro awaits
    rw [vain.turn]
    have less := vain.stirred
    rcases pending.abides (vain.awaits.mp awaits) with none | one
    · rw [none, List.sublist_nil] at less
      exact .inl less
    · rw [one] at less
      cases holds : s.turn with
      | none =>
        rw [holds] at less
        exact .inl (List.sublist_nil.mp less)
      | some q =>
        rw [holds] at less
        exact List.sublist_singleton.mp less
  · exact fun _ q mem => (idle' q mem).rests
  · exact fun _ => vain.now ▸ early

theorem InVain.called (vain : InVain s s') : s'.called = s.called := by
  obtain ⟨_, _, rfl⟩ := vain.frame
  rfl

theorem Pending.called_of_busy (pending : Pending p s acts) (nobody : s.Awaits ∨ s.stirred = [])
    (vain : InVain s s') {turns : Nat} (busy : (s'.workRound turns).isBusy = true) : s.called ≠ [] := by
  intro uncalled
  have unstirred : s.stirred = [] := nobody.resolve_left (pending.unawaited_of_uncalled uncalled)
  have asleep : s'.stirred = [] := List.sublist_nil.mp (unstirred ▸ vain.stirred)
  have still : s'.called = [] := vain.called.trans uncalled
  rw [workRound_uncalled still, Scene.isBusy, still, asleep] at busy
  cases busy

/-- How much there is ahead before the deadline, in time and in turns. -/
def Scene.ahead (s : Scene) : Nat × Nat := (deadline - s.now, s.called.length)

/-- After a look in vain the next round brings the deadline nearer, or leaves fewer to be given turns. -/
theorem Pending.vainRound (pending : Pending p s acts) (nobody : s.Awaits ∨ s.stirred = [])
    (early : s.now < deadline) : ∃ s', Pending p s' acts ∧ s'.bare.proceed = s.bare.proceed ∧
      s'.world.calls = s.world.calls ∧ Prod.Lex (· < ·) (· < ·) s'.ahead s.ahead ∧
      ∀ rounds, s.playRounds (rounds + 1) p = s'.playRounds rounds p ∧
        s.callsTimed? (rounds + 1) p = s'.callsTimed? rounds p := by
  obtain ⟨s₁, seen, vain, pending₁, bare₁⟩ := pending.lookInVain nobody early
  obtain ⟨pending₂, bare₂, calls₂⟩ := pending₁.workRound Scene.turnsInRound
  obtain ⟨pending₃, bare₃, calls₃⟩ := pending₂.onward
  have early₁ : s₁.now < deadline := vain.now ▸ early
  have calls₁ : s₁.world.calls = s.world.calls := by
    obtain ⟨_, _, rfl⟩ := vain.frame
    rfl
  have now₂ : (s₁.workRound Scene.turnsInRound).now = s.now :=
    (Served.workRound pending₁.onset.duet.tandem.orderly pending₁.abides pending₁.alone _).now.trans vain.now
  have called₂ : (s₁.workRound Scene.turnsInRound).called = s.called.drop Scene.turnsInRound := by
    rw [called_workRound, vain.called]
  refine ⟨_, pending₃, by rw [bare₃, bare₂, bare₁], by rw [calls₃, calls₂, calls₁], ?_, fun rounds => ?_⟩
  · unfold Scene.onward
    split
    · rename_i busy
      have fewer : (s.called.drop Scene.turnsInRound).length < s.called.length := by
        have some_called := List.length_pos_iff.mpr (pending.called_of_busy nobody vain busy)
        rw [List.length_drop, Scene.turnsInRound]
        omega
      rw [Scene.ahead, Scene.ahead, now₂, called₂]
      exact .right _ fewer
    · have later : s.now < (s₁.workRound Scene.turnsInRound).nextTime := by
        refine le_nextTime early fun c mem => ?_
        have upcoming := pending₂.onset.duet.hosted.later c mem
        rwa [now₂] at upcoming
      have sooner := nextTime_le_deadline (s₁.workRound Scene.turnsInRound)
      rw [Scene.ahead, Scene.ahead, advance_eq]
      exact .left _ _ (by dsimp only; omega)
  · obtain ⟨played, log⟩ := playRounds_goes seen pending.unended early₁ rounds
    refine ⟨played, ?_⟩
    rw [log, callsSince_same calls₁]
    simp

end
end FlowRuntime.Rehearsal
