import FlowRuntime.Proofs.Rehearsal.Alongside
import FlowRuntime.Proofs.Rehearsal.Muting

/-!
Acts in their places, in two scenes that are alike. We verify that an act that is seen to in
both does the same in both, and what holds of all acts meanwhile: only the one whose turn it
is calls, and asks only whom it may; whoever can go on at once is stirred; whoever can go on
later is cued then; and whoever has just been seen to has nothing more to do now.
-/
namespace FlowRuntime.Rehearsal

def Act.Due (s : Scene) : Act → Nat → Prop
  | .waiting due _, time => time = due
  | .resting due, time => time = due
  | .calling u, time => u.Due s time
  | _, _ => False

/-- Whether an act that has the turn goes on as soon as it is seen to. -/
def Act.IsRipe (s : Scene) : Act → Prop
  | .inLine _ => True
  | .calling u => u.IsRipe s
  | _ => False

/-- Whether an act has asked for the run's turn and has not been answered yet. -/
def Act.TakesTurn : Act → Prop
  | .inLine _ => True
  | .calling _ => True
  | _ => False

def Act.IsMild : Act → Prop
  | .ahead _ request => request.IsMild
  | .waiting _ request => request.IsMild
  | .joining _ _ => False
  | _ => True

/-- Whether an act has been seen to and has nothing to do now, as long as it has no turn to take. -/
structure Act.Rests (s : Scene) (act : Act) : Prop where
  begun : ∀ after request, act ≠ .ahead after request
  later : ∀ time, act.Due s time → s.now < time

def Act.left : Act → Nat
  | .ended _ _ => 0
  | _ => 1

/-- A request ends with those held who are registered, and with a finding that is not muted. -/
def Concludes (held : List Handle) (run : Run) (finding : Finding) : Prop :=
  run.Within held ∧ finding.muted = finding

/-- How an act stands in its place. If it has been seen to at this time, it is stirred only if it has
been given the turn since. -/
structure Placed (s : Scene) (place : Nat) (act : Act) (seen : Prop) : Prop where
  mild : act.IsMild
  calling : ∀ u, act = .calling u → s.turn = some place ∧ Minded Concludes s u
  lined : place ∈ s.line → s.turn ≠ some place ∧ ∃ request, act = .inLine request
  holds : s.turn = some place → act.TakesTurn
  ripe : s.turn = some place → act.IsRipe s → place ∈ s.stirred
  cued : ∀ time, act.Due s time → s.now < time → ⟨time, .part place⟩ ∈ s.cues
  rests : seen → act.Rests s
  stirs : seen → place ∈ s.stirred → s.turn = some place ∧ ∃ request, act = .inLine request

/-- How a scene is with these acts in their places, some of which have been seen to at this time. -/
structure Hosted (s : Scene) (acts : Nat → Act) (seen : Nat → Prop) : Prop where
  placed : ∀ place, Placed s place (acts place) (seen place)
  free : (∀ place u, acts place ≠ .calling u) → ∃ held, s.IsFree held ∧ s.run.Within held
  later : ∀ c ∈ s.cues, s.now < c.time
  once : s.stirred.Nodup
  queue : s.line.Nodup

/-- Acts in the first of two scenes that are alike. -/
structure Duet (s n : Scene) (acts : Nat → Act) (seen : Nat → Prop) : Prop where
  tandem : Tandem s n
  hosted : Hosted s acts seen

/-- Whether a part is stirred, waits for the turn, or is cued. -/
def Scene.Involves (s : Scene) (place : Nat) : Prop :=
  place ∈ s.stirred ∨ place ∈ s.line ∨ ∃ time, ⟨time, .part place⟩ ∈ s.cues

/-- What has become of two scenes when an act was seen to that is now like this: hardly anyone else has
to do with it, and nobody is stirred but by an act that ends. -/
structure Goes (place : Nat) (acts : Nat → Act) (seen : Nat → Prop) (s : Scene) (act : Act)
    (s' n' : Scene) : Prop where
  duet : Duet s' n' (Function.update acts place act) fun q => seen q ∨ q = place
  now : s'.now = s.now
  joiners : s'.joiners = s.joiners
  calls : s.world.calls <:+ s'.world.calls
  involved : ∀ q, s'.Involves q → s.Involves q ∨ q = place
  stirred : ∃ more, s'.stirred = s.stirred.erase place ++ more ∧
    more.length + act.left ≤ (acts place).left

/-- What has become of an act in two scenes: it does the same in both. -/
structure GoesAlike (place : Nat) (acts : Nat → Act) (seen : Nat → Prop) (s : Scene)
    (now now' : Scene × Act) : Prop where
  same : now'.2 = now.2.muted
  goes : Goes place acts seen s now.2 now.1 now'.1

section
variable {s s' n n' : Scene} {acts : Nat → Act} {seen : Nat → Prop} {place : Nat} {act act' : Act}

/-! ### What does not depend on a fan-out -/

theorem Act.not_calling (apart : ¬ act.TakesTurn) (u : Undertaking Finding) : act ≠ .calling u := by
  rintro rfl
  exact apart trivial

theorem Act.not_inLine (apart : ¬ act.TakesTurn) (request : RunRequest) : act ≠ .inLine request := by
  rintro rfl
  exact apart trivial

theorem Act.due_congr (apart : ∀ u, act ≠ .calling u) (s s' : Scene) (time : Nat) :
    act.Due s' time ↔ act.Due s time := by
  cases act with
  | calling u => exact absurd rfl (apart u)
  | ahead | waiting | inLine | resting | joining | ended => exact Iff.rfl

theorem Hosted.apart (hosted : Hosted s acts seen) (other : s.turn ≠ some place)
    (u : Undertaking Finding) : acts place ≠ .calling u :=
  fun calls => other ((hosted.placed place).calling u calls).1

structure Still (s s' : Scene) : Prop where
  now : s'.now = s.now
  limit : s'.limit = s.limit
  round : s'.round = s.round
  since : s'.since = s.since
  residents : s'.world.residents = s.world.residents
  errands : s'.errands = s.errands

namespace Still

theorem fanDue (still : Still s s') (time : Nat) : s'.FanDue time ↔ s.FanDue time := by
  simp only [Scene.FanDue, Scene.isOut, Scene.givenUpAt, still.errands, still.limit, still.since]

theorem due {α : Type} (still : Still s s') (u : Undertaking α) (time : Nat) :
    u.Due s' time ↔ u.Due s time := by
  obtain ⟨call, fate, resume⟩ := u
  cases call with
  | fanOut op targets => exact still.fanDue time
  | bind | repartition | start => exact Iff.rfl

theorem known (still : Still s s') : s'.AllKnown ↔ s.AllKnown := by
  simp only [Scene.AllKnown, Scene.Knows, still.errands]

theorem ripe {α : Type} (still : Still s s') (u : Undertaking α) : u.IsRipe s' ↔ u.IsRipe s := by
  obtain ⟨call, fate, resume⟩ := u
  cases call with
  | fanOut op targets => exact still.known
  | bind | repartition | start => exact Iff.rfl

theorem actDue (still : Still s s') (act : Act) (time : Nat) : act.Due s' time ↔ act.Due s time := by
  cases act with
  | calling u => exact still.due u time
  | ahead | waiting | inLine | resting | joining | ended => exact Iff.rfl

theorem actRipe (still : Still s s') (act : Act) : act.IsRipe s' ↔ act.IsRipe s := by
  cases act with
  | calling u => exact still.ripe u
  | ahead | waiting | inLine | resting | joining | ended => exact Iff.rfl

theorem actRests (still : Still s s') (rests : act.Rests s) : act.Rests s' := by
  refine ⟨rests.begun, ?_⟩
  intro time due
  rw [still.now]
  exact rests.later time ((still.actDue act time).mp due)

theorem minded {α : Type} {after : List Handle → Run → α → Prop} {u : Undertaking α}
    (still : Still s s') (minded : Minded after s u) : Minded after s' u := by
  obtain ⟨call, fate, resume⟩ := u
  cases call with
  | fanOut op targets =>
    obtain ⟨held, courteous, size, minds⟩ := minded
    exact ⟨held, courteous.same still.errands still.residents, by rw [still.errands, size], minds⟩
  | bind | repartition | start =>
    obtain ⟨held, free, minds⟩ := minded
    exact ⟨held, free.same still.residents still.errands, minds⟩

end Still

/-! ### Acts of their own -/

/-- Something is done at a place that is not about the run; it may have been put in line, and nothing
is called. -/
structure Beside (place : Nat) (s s' : Scene) : Prop where
  still : Still s s'
  run : s'.run = s.run
  turn : s'.turn = s.turn
  line : ∀ q ∈ s'.line, q ∈ s.line ∨ q = place
  queue : s'.line.Nodup
  stirred : s'.stirred = s.stirred.erase place
  cues : ∀ c ∈ s.cues, c ∈ s'.cues
  later : ∀ c ∈ s'.cues, c ∈ s.cues ∨ (s.now < c.time ∧ c.player = .part place)
  joiners : s'.joiners = s.joiners
  calls : s.world.calls <:+ s'.world.calls

theorem Beside.of_spares (spares : Spares (fun _ => True) (.part place) (s.unstir place) s')
    (still : Still s s') (run : s'.run = s.run) (queue : s.line.Nodup) : Beside place s s' where
  still := still
  run := run
  turn := spares.turn
  line _ mem := .inl (spares.line ▸ mem)
  queue := spares.line ▸ queue
  stirred := spares.stirred
  cues c mem := spares.cues c mem trivial
  later := spares.later
  joiners := spares.joiners
  calls := spares.calls

theorem Beside.involved (beside : Beside place s s') {q : Nat} (involves : s'.Involves q) :
    s.Involves q ∨ q = place := by
  rcases involves with stirred | lined | ⟨time, cued⟩
  · rw [beside.stirred] at stirred
    exact .inl (.inl (List.mem_of_mem_erase stirred))
  · exact (beside.line q lined).imp_left fun mem => .inr (.inl mem)
  · rcases beside.later _ cued with old | ⟨_, same⟩
    · exact .inl (.inr (.inr ⟨time, old⟩))
    · cases same
      exact .inr rfl

theorem Placed.beside {q : Nat} {b : Prop} (placed : Placed s q act b) (beside : Beside place s s')
    (other : q ≠ place) : Placed s' q act b where
  mild := placed.mild
  calling u calls := by
    obtain ⟨turn, minded⟩ := placed.calling u calls
    exact ⟨beside.turn.trans turn, beside.still.minded minded⟩
  lined mem := by
    rw [beside.turn]
    exact placed.lined ((beside.line q mem).resolve_right other)
  holds turn := placed.holds (beside.turn ▸ turn)
  ripe turn ripe := by
    rw [beside.turn] at turn
    rw [beside.stirred, List.mem_erase_of_ne other]
    exact placed.ripe turn ((beside.still.actRipe act).mp ripe)
  cued time due upcoming := by
    rw [beside.still.now] at upcoming
    exact beside.cues _ (placed.cued time ((beside.still.actDue act time).mp due) upcoming)
  rests seen := beside.still.actRests (placed.rests seen)
  stirs seen mem := by
    rw [beside.stirred, List.mem_erase_of_ne other] at mem
    rw [beside.turn]
    exact placed.stirs seen mem

theorem placed_update (others : ∀ q ≠ place, Placed s' q (acts q) (seen q))
    (mine : Placed s' place act True) (q : Nat) :
    Placed s' q (Function.update acts place act q) (seen q ∨ q = place) := by
  by_cases here : q = place
  · rw [here, Function.update_self, eq_true (.inr rfl : seen place ∨ place = place)]
    exact mine
  · rw [Function.update_of_ne here, eq_false here, or_false]
    exact others q here

theorem Hosted.beside (hosted : Hosted s acts seen) (beside : Beside place s s')
    (before : ∀ u, acts place ≠ .calling u) (mine : Placed s' place act' True) :
    Hosted s' (Function.update acts place act') fun q => seen q ∨ q = place where
  placed := placed_update (fun q other => (hosted.placed q).beside beside other) mine
  free nobody := by
    obtain ⟨held, free, within⟩ := hosted.free (by
      intro q u
      by_cases here : q = place
      · exact here ▸ before u
      · have other := nobody q u
        rwa [Function.update_of_ne here] at other)
    exact ⟨held, free.same beside.still.residents beside.still.errands, by rwa [beside.run]⟩
  later c mem := by
    rw [beside.still.now]
    rcases beside.later c mem with old | ⟨new, _⟩
    · exact hosted.later c old
    · exact new
  once := by
    rw [beside.stirred]
    exact hosted.once.erase place
  queue := beside.queue

theorem Duet.beside (duet : Duet s n acts seen) (tandem : Tandem s' n') (beside : Beside place s s')
    (before : ∀ u, acts place ≠ .calling u) (mine : Placed s' place act' True)
    (left : act'.left ≤ (acts place).left) : Goes place acts seen s act' s' n' where
  duet := ⟨tandem, duet.hosted.beside beside before mine⟩
  now := beside.still.now
  joiners := beside.joiners
  calls := beside.calls
  involved _ := beside.involved
  stirred := ⟨[], by rw [beside.stirred, List.append_nil], by simpa using left⟩

/-- Whether an act has been begun that is not about the run, and has nothing to do but what it is cued
for. -/
structure Act.IsAside (place : Nat) (s : Scene) (act : Act) : Prop where
  mild : act.IsMild
  begun : ∀ after request, act ≠ .ahead after request
  apart : ¬ act.TakesTurn
  cued : ∀ time, act.Due s time → s.now < time ∧ ⟨time, .part place⟩ ∈ s.cues

theorem Act.IsAside.placed (isAside : act.IsAside place s) (elsewhere : s.turn ≠ some place)
    (unlined : place ∉ s.line) (unstirred : place ∉ s.stirred) : Placed s place act True where
  mild := isAside.mild
  calling u calls := absurd calls (Act.not_calling isAside.apart u)
  lined mem := absurd mem unlined
  holds turn := absurd turn elsewhere
  ripe turn _ := absurd turn elsewhere
  cued time due _ := (isAside.cued time due).2
  rests _ := ⟨isAside.begun, fun time due => (isAside.cued time due).1⟩
  stirs _ mem := absurd mem unstirred

theorem ended_isAside (s : Scene) (place time : Nat) (finding : Finding) :
    (Act.ended time finding).IsAside place s := by
  exact ⟨trivial, fun _ _ => Act.noConfusion, id, fun _ => False.elim⟩

/-! ### Requests of the run -/

theorem passTurn_frame (s : Scene) : ∃ more,
    s.passTurn = { s with turn := s.line.head?, line := s.line.tail, stirred := s.stirred ++ more } ∧
      more.length ≤ 1 ∧ (∀ q ∈ more, s.line.head? = some q ∧ q ∉ s.stirred) ∧
      ∀ q, s.line.head? = some q → q ∈ s.stirred ++ more := by
  unfold Scene.passTurn
  cases line : s.line with
  | nil => exact ⟨[], by simp⟩
  | cons next rest =>
    by_cases before : next ∈ s.stirred
    · exact ⟨[], by simp [Scene.wake, before]⟩
    · exact ⟨[next], by simp [Scene.wake, before]⟩

theorem not_awaits_of_known (known : s.AllKnown) : ¬ s.Awaits := by
  rintro ⟨i, stands, _⟩
  obtain ⟨outcome, heard⟩ := known i (Array.getElem?_eq_some_iff.mp stands).1
  rw [stands] at heard
  cases heard

theorem Placed.spared {q : Nat} {b : Prop} (placed : Placed s q act b)
    (apart : ∀ u, act ≠ .calling u) (other : q ≠ place) (now : s'.now = s.now)
    (cues : ∀ c ∈ s.cues, c.player ≠ .part place → c ∈ s'.cues)
    (lined : q ∈ s'.line → q ∈ s.line ∧ s'.turn ≠ some q)
    (ripe : s'.turn = some q → act.TakesTurn ∧ q ∈ s'.stirred)
    (stirs : b → q ∈ s'.stirred → s'.turn = some q ∧ ∃ request, act = .inLine request) :
    Placed s' q act b where
  mild := placed.mild
  calling u calls := absurd calls (apart u)
  lined mem := ⟨(lined mem).2, (placed.lined (lined mem).1).2⟩
  holds turn := (ripe turn).1
  ripe turn _ := (ripe turn).2
  cued time due upcoming := by
    rw [Act.due_congr apart s] at due
    rw [now] at upcoming
    exact cues _ (placed.cued time due upcoming) (by simpa using other)
  rests seen := by
    refine ⟨(placed.rests seen).begun, ?_⟩
    intro time due
    rw [now]
    exact (placed.rests seen).later time ((Act.due_congr apart s s' time).mp due)
  stirs := stirs

theorem Hosted.later_spared {others : Player → Prop} {mine : Player} (hosted : Hosted s acts seen)
    (spares : Spares others mine ({ s with turn := some place }.unstir place) s') :
    ∀ c ∈ s'.cues, s'.now < c.time := by
  have now : s'.now = s.now := spares.now
  intro c mem
  rw [now]
  rcases spares.later c mem with old | ⟨new, _⟩
  · exact hosted.later c old
  · exact new

theorem passTurn_once (once : s.stirred.Nodup) : s.passTurn.stirred.Nodup := by
  obtain ⟨more, same, few, woken, _⟩ := passTurn_frame s
  rw [same]
  refine List.nodup_append.mpr ⟨once, ?_, ?_⟩
  · match more, few with
    | [], _ => exact List.nodup_nil
    | [next], _ => exact List.nodup_singleton next
  · rintro a old b new rfl
    exact (woken a new).2 old

theorem head_apart {line : List Nat} (queue : line.Nodup) {q : Nat} (head : line.head? = some q) :
    q ∈ line ∧ q ∉ line.tail := by
  cases line with
  | nil => cases head
  | cons next rest =>
    cases head
    exact ⟨List.mem_cons_self, (List.nodup_cons.mp queue).1⟩

theorem Hosted.waits {u : Undertaking Finding} (hosted : Hosted s acts seen)
    (mine : ∀ q ≠ place, s.turn ≠ some q) (unlined : place ∉ s.line)
    (spares : Spares (· ≠ .part place) (.part place) ({ s with turn := some place }.unstir place) s')
    (standing : Standing Concludes place s' (.inl u)) :
    Hosted s' (Function.update acts place (.calling u)) fun q => seen q ∨ q = place := by
  obtain ⟨minded, unripe, due⟩ := standing
  have holds : s'.turn = some place := spares.turn
  have unstirred : s'.stirred = s.stirred.erase place := spares.stirred
  have line : s'.line = s.line := spares.line
  have elsewhere {q : Nat} (other : q ≠ place) : s'.turn ≠ some q := by
    rw [holds]
    simpa using Ne.symm other
  refine ⟨placed_update ?_ ?_, ?_, ?_, ?_, ?_⟩
  · intro q other
    refine (hosted.placed q).spared (hosted.apart (mine q other)) other spares.now spares.cues ?_ ?_ ?_
    · intro mem
      exact ⟨line ▸ mem, elsewhere other⟩
    · intro turned
      exact absurd turned (elsewhere other)
    · intro before mem
      rw [unstirred, List.mem_erase_of_ne other] at mem
      exact absurd ((hosted.placed q).stirs before mem).1 (mine q other)
  · constructor
    · trivial
    · rintro v ⟨⟩
      exact ⟨holds, minded⟩
    · intro mem
      exact absurd (line ▸ mem) unlined
    · exact fun _ => trivial
    · intro _ ripe
      exact absurd ripe unripe
    · intro time isDue _
      exact (due time isDue).2
    · exact fun _ => ⟨fun _ _ => Act.noConfusion, fun time isDue => (due time isDue).1⟩
    · intro _ mem
      rw [unstirred] at mem
      exact absurd mem hosted.once.not_mem_erase
  · intro nobody
    have calls := nobody place u
    rw [Function.update_self] at calls
    exact absurd rfl calls
  · exact hosted.later_spared spares
  · rw [unstirred]
    exact hosted.once.erase place
  · exact line ▸ hosted.queue

theorem Hosted.passes {held : List Handle} (hosted : Hosted s acts seen)
    (mine : ∀ q ≠ place, s.turn ≠ some q) (unlined : place ∉ s.line)
    (spares : Spares (· ≠ .part place) (.part place) ({ s with turn := some place }.unstir place) s')
    (free : s'.IsFree held) (within : s'.run.Within held) (time : Nat) (finding : Finding) :
    Hosted s'.passTurn (Function.update acts place (.ended time finding))
      fun q => seen q ∨ q = place := by
  obtain ⟨more, same, _, woken, awake⟩ := passTurn_frame s'
  have unstirred : s'.stirred = s.stirred.erase place := spares.stirred
  have line : s'.line = s.line := spares.line
  have first {q : Nat} (head : s'.line.head? = some q) : q ∈ s.line ∧ q ∉ s'.line.tail := by
    rw [line] at head ⊢
    exact head_apart hosted.queue head
  have later := hosted.later_spared spares
  have once : s'.passTurn.stirred.Nodup := by
    apply passTurn_once
    rw [unstirred]
    exact hosted.once.erase place
  rw [same] at once ⊢
  refine ⟨placed_update ?_ ?_, fun _ => ⟨held, free.same rfl rfl, within⟩, ?_, ?_, ?_⟩
  · intro q other
    have placed := hosted.placed q
    refine placed.spared (hosted.apart (mine q other)) other spares.now spares.cues ?_ ?_ ?_
    · intro mem
      refine ⟨line ▸ List.mem_of_mem_tail mem, ?_⟩
      intro head
      exact (first head).2 mem
    · intro head
      obtain ⟨_, request, lined⟩ := placed.lined (first head).1
      exact ⟨by rw [lined]; trivial, awake q head⟩
    · intro before mem
      rcases List.mem_append.mp mem with old | new
      · rw [unstirred, List.mem_erase_of_ne other] at old
        exact absurd (placed.stirs before old).1 (mine q other)
      · have head := (woken q new).1
        exact ⟨head, (placed.lined (first head).1).2⟩
  · refine (ended_isAside _ place time finding).placed ?_ ?_ ?_
    · intro head
      exact unlined (first head).1
    · intro mem
      exact unlined (line ▸ List.mem_of_mem_tail mem)
    · intro mem
      rcases List.mem_append.mp mem with old | new
      · rw [unstirred] at old
        exact hosted.once.not_mem_erase old
      · exact unlined (first (woken place new).1).1
  · exact later
  · exact once
  · change s'.line.tail.Nodup
    rw [line]
    exact hosted.queue.tail

theorem Tandem.unstir (tandem : Tandem s n) (place : Nat) :
    Tandem (s.unstir place) (n.unstir place) := by
  obtain ⟨alike, paced, orderly, roused⟩ := tandem
  have noise (s : Scene) : Noise s (s.unstir place) := ⟨_, _, _, _, _, rfl⟩
  refine ⟨alike.noise (noise s) (noise n), ⟨?_, paced.cues⟩, (noise s).orderly orderly,
    ⟨roused.mailed, roused.called⟩⟩
  exact congrArg (·.erase place) paced.stirred

theorem Tandem.adjust (tandem : Tandem s n) (watched turn : Option Nat) (line : List Nat)
    (faults : List Fault) :
    Tandem { s with watched, turn, line, world.faults := faults }
      { n with watched, turn, line, world.faults := faults } := by
  obtain ⟨alike, paced, orderly, roused⟩ := tandem
  obtain ⟨⟨_, _, _, _, _, _, _, rfl⟩, errands, size, ahead⟩ := alike
  exact ⟨⟨⟨_, _, _, _, _, _, _, rfl⟩, errands, size, fun h r r' found found' =>
    ⟨(ahead h r r' found found').mustStop, (ahead h r r' found found').mail⟩⟩,
    paced.follow rfl rfl rfl rfl, ⟨orderly.going, orderly.past, orderly.posted, orderly.single⟩,
    ⟨roused.mailed, roused.called⟩⟩

theorem Paced.wake (paced : Paced s n) (place : Nat) :
    Paced (s.wake (.part place)) (n.wake (.part place)) := by
  simp only [Scene.wake, paced.stirred]
  split
  · exact paced
  · exact ⟨rfl, paced.cues⟩

theorem Tandem.passTurn (tandem : Tandem s n) : Tandem s.passTurn n.passTurn := by
  obtain ⟨_, _, _, _, _, _, _, rfl⟩ := tandem.alike.frame
  unfold Scene.passTurn
  dsimp only
  split
  · exact tandem.adjust s.watched none s.line s.world.faults
  · rename_i next rest _
    have turned := tandem.adjust s.watched (some next) rest s.world.faults
    exact turned.noise (.wake _ _) (.wake _ _) (turned.paced.wake next) (Livelier.wake _ _).toAttentive

theorem Duet.settled {now now' : Scene × (Undertaking Finding ⊕ Finding)}
    (duet : Duet s n acts seen) (mine : ∀ q ≠ place, s.turn ≠ some q) (unlined : place ∉ s.line)
    (spares : Spares (· ≠ .part place) (.part place) ({ s with turn := some place }.unstir place) now.1)
    (alongside : Alongside Concludes place now now') (open_end : (acts place).left = 1) :
    GoesAlike place acts seen s (Scene.settleCall now) (Scene.settleCall now') := by
  obtain ⟨s', form⟩ := now
  obtain ⟨n', form'⟩ := now'
  obtain ⟨same, tandem, standing⟩ := alongside
  change form' = form at same
  subst same
  have lined {q : Nat} (mem : q ∈ s'.line) : s.Involves q :=
    .inr (.inl ((spares.line : s'.line = s.line) ▸ mem))
  have cued {q time : Nat} (mem : ⟨time, .part q⟩ ∈ s'.cues) : s.Involves q ∨ q = place := by
    rcases spares.later _ mem with old | ⟨_, same⟩
    · exact .inl (.inr (.inr ⟨time, old⟩))
    · cases same
      exact .inr rfl
  have stirred {q : Nat} (mem : q ∈ s'.stirred) : s.Involves q :=
    .inl (List.mem_of_mem_erase ((spares.stirred : s'.stirred = s.stirred.erase place) ▸ mem))
  cases form' with
  | inl u =>
    refine ⟨rfl, ⟨⟨tandem, duet.hosted.waits mine unlined spares standing⟩, spares.now, spares.joiners,
      spares.calls, ?_, ?_⟩⟩
    · rintro q (here | here | ⟨time, here⟩)
      · exact .inl (stirred here)
      · exact .inl (lined here)
      · exact cued here
    · exact ⟨[], by rw [List.append_nil]; exact spares.stirred, by rw [open_end]; exact Nat.le_refl 1⟩
  | inr finding =>
    obtain ⟨held, free, within, unmuted⟩ := standing
    obtain ⟨more, same, few, woken, _⟩ := passTurn_frame s'
    have now : n'.now = s'.now := tandem.now
    have head {q : Nat} (first : s'.line.head? = some q) : q ∈ s'.line := List.mem_of_mem_head? first
    refine ⟨?_, ⟨⟨tandem.passTurn, duet.hosted.passes mine unlined spares free within s'.now finding⟩,
      ?_, ?_, ?_, ?_, ?_⟩⟩
    · simp only [Scene.settleCall, Act.muted, unmuted, now]
    · simp only [Scene.settleCall, same]
      exact spares.now
    · simp only [Scene.settleCall, same]
      exact spares.joiners
    · simp only [Scene.settleCall, same]
      exact spares.calls
    · simp only [Scene.settleCall, same]
      rintro q (here | here | ⟨time, here⟩)
      · rcases List.mem_append.mp here with old | new
        · exact .inl (stirred old)
        · exact .inl (lined (head (woken q new).1))
      · exact .inl (lined (List.mem_of_mem_tail here))
      · exact cued here
    · simp only [Scene.settleCall, same]
      exact ⟨more, congrArg (· ++ more) spares.stirred, by rw [open_end]; exact few⟩

theorem Duet.carryOut {held : List Handle} (duet : Duet s n acts seen)
    (mine : ∀ q ≠ place, s.turn ≠ some q) (unlined : place ∉ s.line) (free : s.IsFree held)
    (within : s.run.Within held) (open_end : (acts place).left = 1) (request : RunRequest) :
    GoesAlike place acts seen s (({ s with turn := some place }.unstir place).carryOut place request)
      (({ n with turn := some place }.unstir place).carryOut place request) := by
  have minds : ((Finding.ofAnswer <$> request.operation) s.run).Minds Concludes held := by
    refine (RunRequest.minds request within).bind fun held run answer within' => ⟨within', ?_⟩
    cases answer <;> simp [Finding.ofAnswer, Finding.muted]
  obtain ⟨_, _, _, _, _, _, _, rfl⟩ := duet.tandem.alike.frame
  have tandem := (duet.tandem.unstir place).adjust s.watched (some place) s.line s.world.faults
  exact duet.settled mine unlined (.drive _ place _) (alongside_drive _ tandem (free.same rfl rfl) minds)
    open_end

/-! ### Seeing to acts -/

theorem Duet.aside (duet : Duet s n acts seen) (tandem : Tandem s' n')
    (spares : Spares (fun _ => True) (.part place) (s.unstir place) s') (still : Still s s')
    (run : s'.run = s.run) (isAside : act'.IsAside place s') (apart : ¬ (acts place).TakesTurn)
    (left : act'.left ≤ (acts place).left) : Goes place acts seen s act' s' n' := by
  have placed := duet.hosted.placed place
  refine duet.beside tandem (.of_spares spares still run duet.hosted.queue) (Act.not_calling apart) ?_ left
  refine isAside.placed ?_ ?_ ?_
  · intro turn
    exact apart (placed.holds ((spares.turn : s'.turn = s.turn) ▸ turn))
  · intro mem
    obtain ⟨_, request, lined⟩ := placed.lined ((spares.line : s'.line = s.line) ▸ mem)
    exact Act.not_inLine apart request lined
  · intro mem
    rw [(spares.stirred : s'.stirred = s.stirred.erase place)] at mem
    exact duet.hosted.once.not_mem_erase mem

theorem Duet.heedless (duet : Duet s n acts seen) (audience audience' : Audience)
    (finding : Finding) {called : List Player} (kept : ∀ p ∈ s.called, p ∈ called)
    (apart : ¬ (acts place).TakesTurn) : Goes place acts seen s (.ended s.now finding) { s.unstir place with audience, called }
      { n.unstir place with audience := audience' } := by
  refine duet.aside ?_ (.of_same rfl rfl rfl rfl rfl rfl rfl (List.suffix_refl _)) ⟨rfl, rfl, rfl, rfl, rfl, rfl⟩ rfl
    (ended_isAside _ _ _ _) apart (Nat.zero_le _)
  have tandem := duet.tandem.unstir place
  exact tandem.noise ⟨_, _, _, _, _, rfl⟩ ⟨_, _, _, _, _, rfl⟩ (tandem.paced.follow rfl rfl rfl rfl)
    ⟨rfl, rfl, kept, fun _ => id⟩

theorem Duet.rests {due : Nat} (duet : Duet s n acts seen) (upcoming : s.now < due)
    (mild : act'.IsMild) (begun : ∀ after request, act' ≠ .ahead after request)
    (apart' : ¬ act'.TakesTurn) (waits : ∀ time, act'.Due s time → time = due)
    (apart : ¬ (acts place).TakesTurn) (open_end : (acts place).left = 1) :
    Goes place acts seen s act' ((s.unstir place).cue due (.part place))
      ((n.unstir place).cue due (.part place)) := by
  have tandem := duet.tandem.unstir place
  have spares : Spares (fun _ => True) (.part place) (s.unstir place)
      ((s.unstir place).cue due (.part place)) := .cue (s.unstir place) upcoming _
  have noise := Noise.cue (s.unstir place) due (.part place)
  have cued : ⟨due, .part place⟩ ∈ ((s.unstir place).cue due (.part place)).cues := by
    unfold Scene.cue
    split
    · assumption
    · exact List.mem_append_right _ (List.mem_singleton_self _)
  refine duet.aside (tandem.noise noise (.cue _ _ _) (tandem.paced.cue due place)
    (Livelier.cue _ _ _).toAttentive) spares ?_ ?_ ⟨mild, begun, apart', ?_⟩ apart ?_
  · obtain ⟨_, _, _, _, _, same⟩ := noise
    rw [same]
    exact ⟨rfl, rfl, rfl, rfl, rfl, rfl⟩
  · obtain ⟨_, _, _, _, _, same⟩ := noise
    rw [same]
    rfl
  · intro time isDue
    rw [Act.due_congr (Act.not_calling apart') s] at isDue
    rw [waits time isDue]
    exact ⟨spares.now ▸ upcoming, cued⟩
  · rw [open_end]
    cases act' <;> simp [Act.left]

theorem unstir_still (s : Scene) (place : Nat) : Still s (s.unstir place) :=
  ⟨rfl, rfl, rfl, rfl, rfl, rfl⟩

theorem Duet.notes (duet : Duet s n acts seen) (watched : Option Nat) (faults : List Fault)
    (finding : Finding) (apart : ¬ (acts place).TakesTurn) :
    Goes place acts seen s (.ended s.now finding)
      { s.unstir place with watched := watched, world.faults := faults }
      { n.unstir place with watched := watched, world.faults := faults } := by
  obtain ⟨_, _, _, _, _, _, _, rfl⟩ := duet.tandem.alike.frame
  exact duet.aside ((duet.tandem.unstir place).adjust watched s.turn s.line faults)
    (.of_same rfl rfl rfl rfl rfl rfl rfl (List.suffix_refl _)) ⟨rfl, rfl, rfl, rfl, rfl, rfl⟩ rfl
    (ended_isAside _ place s.now finding) apart (Nat.zero_le _)

theorem Duet.attend (duet : Duet s n acts seen) {a : Aside} (mild : a.IsMild)
    (apart : ¬ (acts place).TakesTurn) (open_end : (acts place).left = 1) :
    GoesAlike place acts seen s ((s.unstir place).attend place a)
      ((n.unstir place).attend place a.muted) := by
  obtain ⟨_, _, _, _, _, _, _, rfl⟩ := duet.tandem.alike.frame
  have ended (finding : Finding) (plain : finding.IsPlain) :
      Act.ended s.now finding = (Act.ended s.now finding).muted :=
    congrArg (Act.ended s.now) (Finding.muted_of_plain plain).symm
  have looks (finding : Finding) : Goes place acts seen s (.ended s.now finding) (s.unstir place) _ :=
    duet.notes s.watched s.world.faults finding apart
  cases a with
  | counts | state | cause | describe | info | partitions stage => exact ⟨ended _ trivial, looks _⟩
  | watch => exact ⟨ended _ trivial, duet.notes _ _ _ apart⟩
  | plan fault => exact ⟨ended _ trivial, duet.notes _ _ _ apart⟩
  | clearFaults => exact ⟨ended _ trivial, duet.notes _ _ _ apart⟩
  | heard name =>
    have silent : (Finding.heard (s.audience.heardBy? name)).muted = .done := by simp [Finding.muted]
    exact ⟨congrArg (Act.ended s.now) silent.symm,
      duet.heedless s.audience _ _ (fun _ => id) apart⟩
  | refuseWrites count => exact ⟨ended _ trivial, duet.heedless _ _ _ (fun _ => id) apart⟩
  | listen name fears =>
    exact ⟨ended _ trivial, duet.heedless _ _ _ (fun _ => List.mem_append_left _) apart⟩
  | record =>
    exact ⟨ended _ trivial, duet.heedless _ _ _ (fun _ => List.mem_append_left _) apart⟩
  | sleep ms =>
    have rests (s' : Scene) (same : s'.now = s.now) : s'.attend place (.sleep ms) =
        if s.now + waitFor ms ≤ s.now then (s', .ended s.now .done)
        else (s'.cue (s.now + waitFor ms) (.part place), .resting (s.now + waitFor ms)) := by
      simp only [Scene.attend, Scene.rest, same]
    have unmuted : (Aside.sleep ms).muted = .sleep ms := rfl
    rw [unmuted, rests, rests]
    · split
      · exact ⟨ended _ trivial, looks _⟩
      · rename_i early
        exact ⟨rfl, duet.rests (Nat.lt_of_not_le early) trivial (by simp) id (fun _ => id)
          apart open_end⟩
    · rfl
    · rfl
  | shutDown | join => exact mild.elim

theorem Duet.queues {request : RunRequest} (duet : Duet s n acts seen) (tandem : Tandem s' n')
    (beside : Beside place s s') (other : s.turn ≠ some place) (open_end : (acts place).left = 1) :
    Goes place acts seen s (.inLine request) s' n' := by
  have elsewhere : s'.turn ≠ some place := by rwa [beside.turn]
  refine duet.beside tandem beside (duet.hosted.apart other) ?_ (by rw [open_end]; exact Nat.le_refl 1)
  refine ⟨trivial, by simp, fun _ => ⟨elsewhere, request, rfl⟩, fun _ => trivial,
    fun turn => absurd turn elsewhere, fun _ => False.elim, fun _ => ⟨by simp, fun _ => False.elim⟩, ?_⟩
  intro _ mem
  rw [beside.stirred] at mem
  exact absurd mem duet.hosted.once.not_mem_erase

theorem Duet.begin {request : Request} (duet : Duet s n acts seen) (mild : request.IsMild)
    (apart : ¬ (acts place).TakesTurn) (open_end : (acts place).left = 1) :
    GoesAlike place acts seen s ((s.unstir place).begin place request)
      ((n.unstir place).begin place request.muted) := by
  cases request with
  | aside a => exact duet.attend mild apart open_end
  | turn request =>
    have turn : n.turn = s.turn := by
      obtain ⟨_, _, _, _, _, _, _, rfl⟩ := duet.tandem.alike.frame
      rfl
    have begins (s : Scene) : (s.unstir place).begin place (.turn request) =
        if s.turn = none then ({ s with turn := some place }.unstir place).carryOut place request
        else ({ s.unstir place with line := s.line ++ [place] }, .inLine request) := by
      by_cases nobody : s.turn = none <;> simp [Scene.begin, Scene.takeTurn, Scene.unstir, nobody]
    have unmuted : (Request.turn request).muted = .turn request := rfl
    have unlined : place ∉ s.line := fun mem => by
      obtain ⟨_, request, lined⟩ := (duet.hosted.placed place).lined mem
      exact Act.not_inLine apart request lined
    rw [unmuted, begins, begins, turn]
    split
    · rename_i nobody
      obtain ⟨held, free, within⟩ := duet.hosted.free fun q u => duet.hosted.apart (by simp [nobody]) u
      exact duet.carryOut (by simp [nobody]) unlined free within open_end request
    · rename_i somebody
      have line : n.line = s.line := by
        obtain ⟨_, _, _, _, _, _, _, rfl⟩ := duet.tandem.alike.frame
        rfl
      refine ⟨rfl, duet.queues ?_ ?_ ?_ open_end⟩
      · obtain ⟨_, _, _, _, _, _, _, rfl⟩ := duet.tandem.alike.frame
        exact (duet.tandem.unstir place).adjust s.watched s.turn (s.line ++ [place]) s.world.faults
      · refine ⟨⟨rfl, rfl, rfl, rfl, rfl, rfl⟩, rfl, rfl, ?_, ?_, rfl, fun _ => id, fun _ => .inl, rfl,
          List.suffix_refl _⟩
        · intro q mem
          simpa using mem
        · exact List.nodup_append.mpr ⟨duet.hosted.queue, List.nodup_singleton place, by
            rintro q mem q' mem' rfl
            rw [List.mem_singleton.mp mem'] at mem
            exact unlined mem⟩
      · exact fun holds => apart ((duet.hosted.placed place).holds holds)

theorem Duet.unmoved (duet : Duet s n acts seen) (here : acts place = act')
    (isAside : act'.IsAside place (s.unstir place)) :
    Goes place acts seen s act' (s.unstir place) (n.unstir place) :=
  duet.aside (duet.tandem.unstir place) (.refl _) (unstir_still s place) rfl isAside
    (here ▸ isAside.apart) (Nat.le_of_eq (congrArg Act.left here.symm))

theorem Duet.seeTo_resting {due : Nat} (duet : Duet s n acts seen) (here : acts place = .resting due) :
    GoesAlike place acts seen s ((s.unstir place).seeTo place (.resting due))
      ((n.unstir place).seeTo place (.resting due)) := by
  have sees (s : Scene) : (s.unstir place).seeTo place (.resting due) =
      if due ≤ s.now then (s.unstir place, .ended s.now .done)
      else (s.unstir place, .resting due) := rfl
  rw [sees, sees, duet.tandem.now]
  split
  · exact ⟨by simp [Act.muted, Finding.muted], duet.aside (duet.tandem.unstir place) (.refl _)
      (unstir_still s place) rfl (ended_isAside _ _ _ _) (by rw [here]; exact id) (Nat.zero_le _)⟩
  · rename_i early
    have upcoming := Nat.lt_of_not_le early
    refine ⟨rfl, duet.unmoved here ⟨trivial, by simp, id, ?_⟩⟩
    rintro time rfl
    exact ⟨upcoming, (duet.hosted.placed place).cued time (by rw [here]; rfl) upcoming⟩

theorem Duet.seeTo_waiting {due : Nat} {request : Request} (duet : Duet s n acts seen)
    (here : acts place = .waiting due request) :
    GoesAlike place acts seen s ((s.unstir place).seeTo place (.waiting due request))
      ((n.unstir place).seeTo place (.waiting due request.muted)) := by
  have mild := (duet.hosted.placed place).mild
  rw [here] at mild
  have sees (s : Scene) (request : Request) : (s.unstir place).seeTo place (.waiting due request) =
      if due ≤ s.now then (s.unstir place).begin place request
      else (s.unstir place, .waiting due request) := rfl
  rw [sees, sees, duet.tandem.now]
  split
  · exact duet.begin mild (by rw [here]; exact id) (by rw [here]; rfl)
  · rename_i early
    have upcoming := Nat.lt_of_not_le early
    refine ⟨rfl, duet.unmoved here ⟨mild, by simp, id, ?_⟩⟩
    rintro time rfl
    exact ⟨upcoming, (duet.hosted.placed place).cued time (by rw [here]; rfl) upcoming⟩

theorem Duet.seeTo_ahead {after : Nat} {request : Request} (duet : Duet s n acts seen)
    (here : acts place = .ahead after request) :
    GoesAlike place acts seen s ((s.unstir place).seeTo place (.ahead after request))
      ((n.unstir place).seeTo place (.ahead after request.muted)) := by
  have mild := (duet.hosted.placed place).mild
  rw [here] at mild
  have sees (s : Scene) (request : Request) : (s.unstir place).seeTo place (.ahead after request) =
      if s.now + waitFor after ≤ s.now then (s.unstir place).begin place request
      else ((s.unstir place).cue (s.now + waitFor after) (.part place),
        .waiting (s.now + waitFor after) request) := rfl
  rw [sees, sees, duet.tandem.now]
  split
  · exact duet.begin mild (by rw [here]; exact id) (by rw [here]; rfl)
  · rename_i early
    exact ⟨rfl, duet.rests (Nat.lt_of_not_le early) mild (by simp) id
      (fun _ => id) (by rw [here]; exact id) (by rw [here]; rfl)⟩

theorem Duet.mine (duet : Duet s n acts seen) (turn : s.turn = some place) :
    (∀ q ≠ place, s.turn ≠ some q) ∧ place ∉ s.line := by
  refine ⟨fun q other => ?_, fun mem => ((duet.hosted.placed place).lined mem).1 turn⟩
  rw [turn]
  simpa using Ne.symm other

theorem Duet.seeTo_inLine {request : RunRequest} (duet : Duet s n acts seen)
    (here : acts place = .inLine request) :
    GoesAlike place acts seen s ((s.unstir place).seeTo place (.inLine request))
      ((n.unstir place).seeTo place (.inLine request)) := by
  have sees (s : Scene) : (s.unstir place).seeTo place (.inLine request) =
      if s.turn = some place then (s.unstir place).carryOut place request
      else (s.unstir place, .inLine request) := rfl
  have turn : n.turn = s.turn := by
    obtain ⟨_, _, _, _, _, _, _, rfl⟩ := duet.tandem.alike.frame
    rfl
  have left : (acts place).left = 1 := by rw [here]; rfl
  rw [sees, sees, turn]
  split
  · rename_i holds
    have nobody (q : Nat) (u : Undertaking Finding) : acts q ≠ .calling u := by
      by_cases same : q = place
      · rw [same, here]
        simp
      · exact duet.hosted.apart ((duet.mine holds).1 q same) u
    obtain ⟨held, free, within⟩ := duet.hosted.free nobody
    have same : { s with turn := some place } = s := by rw [← holds]
    have same' : { n with turn := some place } = n := by rw [← holds, ← turn]
    obtain ⟨mine, unlined⟩ := duet.mine holds
    have carried := duet.carryOut mine unlined free within left request
    rwa [same, same'] at carried
  · rename_i other
    refine ⟨rfl, duet.queues (duet.tandem.unstir place) ?_ other left⟩
    exact ⟨unstir_still s place, rfl, rfl, fun _ => .inl, duet.hosted.queue, rfl, fun _ => id,
      fun _ => .inl, rfl, List.suffix_refl _⟩

theorem Duet.seeTo_calling {u : Undertaking Finding} (duet : Duet s n acts seen)
    (here : acts place = .calling u) :
    GoesAlike place acts seen s ((s.unstir place).seeTo place (.calling u))
      ((n.unstir place).seeTo place (.calling u)) := by
  have placed := duet.hosted.placed place
  obtain ⟨turn, minded⟩ := placed.calling u here
  obtain ⟨mine, unlined⟩ := duet.mine turn
  have still := unstir_still s place
  have same : { s with turn := some place } = s := by rw [← turn]
  refine duet.settled mine unlined (same ▸ .goOn (s.unstir place) place u)
    (alongside_goOn (duet.tandem.unstir place) (still.minded minded) ?_) (by rw [here]; rfl)
  intro time due upcoming
  exact placed.cued time (by rw [here]; exact (still.due u time).mp due) upcoming

/-- An act that is seen to in both scenes does the same in both. -/
theorem Duet.seeTo (duet : Duet s n acts seen) (place : Nat) :
    GoesAlike place acts seen s ((s.unstir place).seeTo place (acts place))
      ((n.unstir place).seeTo place (acts place).muted) := by
  cases here : acts place with
  | ended time finding => exact ⟨rfl, duet.unmoved here (ended_isAside _ _ _ _)⟩
  | resting due => exact duet.seeTo_resting here
  | waiting due request => exact duet.seeTo_waiting here
  | ahead after request => exact duet.seeTo_ahead here
  | joining listeners due =>
    have mild := (duet.hosted.placed place).mild
    rw [here] at mild
    exact mild.elim
  | inLine request => exact duet.seeTo_inLine here
  | calling u => exact duet.seeTo_calling here

end
end FlowRuntime.Rehearsal
