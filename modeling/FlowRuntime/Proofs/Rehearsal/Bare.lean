import FlowRuntime.Proofs.Listener.Patience
import FlowRuntime.Proofs.Rehearsal.Vain

/-!
A scene with nobody but the parts of the step. There, everybody has read, nobody listens, and
if an answer was awaited then whose turn it is has been stirred by it. We verify that turns of
instances and of listeners, in whatever number they are given, do not change it.
-/
namespace FlowRuntime.Rehearsal

/-! ### Answers that are awaited -/

namespace Scene

theorem awaits_iff (s : Scene) : s.Awaits ↔ ∃ (i : Nat) (handle : Handle), ∃ r,
    s.errands[i]? = some (.sent none) ∧ s.world.residents[handle]? = some r ∧
      firstAnswer s.round i r.answers ≠ none := by
  constructor
  · rintro ⟨i, sent, foreseen⟩
    obtain ⟨outcome, here⟩ := Option.ne_none_iff_exists'.mp foreseen
    obtain ⟨r, mem, answers⟩ := List.exists_of_findSome?_eq_some here
    obtain ⟨handle, found⟩ := Array.getElem?_of_mem (Array.mem_toList_iff.mp mem)
    exact ⟨i, handle, r, sent, found, by rw [answers]; simp⟩
  · rintro ⟨i, handle, r, sent, found, answers⟩
    refine ⟨i, sent, ?_⟩
    rw [foresees, Ne, List.findSome?_eq_none_iff]
    intro none
    exact answers (none r (Array.mem_toList_iff.mpr (Array.mem_of_getElem? found)))

def isSent : Errand → Bool
  | .sent none => true
  | _ => false

instance (s : Scene) : Decidable s.Awaits :=
  decidable_of_iff (∃ i ∈ List.range s.errands.size,
    s.errands[i]?.any isSent = true ∧ (s.foresees i).isSome = true) <| by
    constructor
    · rintro ⟨i, _, sent, foreseen⟩
      obtain ⟨e, stands, here⟩ := Option.any_eq_true _ _ |>.mp sent
      refine ⟨i, ?_, Option.isSome_iff_ne_none.mp foreseen⟩
      cases e with
      | sent answer =>
        cases answer with
        | none => exact stands
        | some outcome => cases here
      | delayed | ended => cases here
    · rintro ⟨i, sent, foreseen⟩
      exact ⟨i, List.mem_range.mpr (Array.getElem?_eq_some_iff.mp sent).1, by rw [sent]; rfl,
        Option.isSome_iff_ne_none.mpr foreseen⟩

/-- Whether nobody but whose turn it is is stirred, as long as an answer is awaited. -/
def Abides (s : Scene) : Prop := s.Awaits → s.stirred = [] ∨ s.stirred = s.turn.toList

/-- As it is when everybody has read, with the parts that are cued and those that are stirred, but
without those who listen. -/
def bare (s : Scene) : Scene :=
  { s.hush with cues := s.partCues, stirred := if s.Awaits then s.turn.toList else s.stirred }

end Scene

section
variable {s s' s'' : Scene} {answers : List (Letter × Outcome)}

theorem wakeTurn_stirred (abides : s.stirred = [] ∨ s.stirred = s.turn.toList) :
    (s.wakeAll (s.turn.toList.map .part)).stirred = s.turn.toList := by
  cases turn : s.turn with
  | none =>
    rw [turn] at abides
    simpa [Scene.wakeAll] using abides
  | some place =>
    rw [turn] at abides
    rcases abides with none | one
    · simp [Scene.wakeAll, Scene.wake, none]
    · simp [Scene.wakeAll, Scene.wake, one]

theorem noteAnswer_cases (s : Scene) (l : Letter) (outcome : Outcome) :
    s.noteAnswer l outcome = s ∨
      (l.round = s.round ∧ s.errands[l.place]? = some (.sent none)) ∧
        (s.stirred = [] ∨ s.stirred = s.turn.toList →
          (s.noteAnswer l outcome).stirred = s.turn.toList) := by
  unfold Scene.noteAnswer
  split
  · exact .inl rfl
  · rename_i current
    split
    · rename_i stands
      exact .inr ⟨⟨not_not.mp current, stands⟩,
        wakeTurn_stirred (s := s.setErrand l.place (.sent (some outcome)))⟩
    · exact .inl rfl

theorem noteAnswers_unasked
    (unasked : ∀ i : Nat, s.errands[i]? = some (.sent none) → firstAnswer s.round i answers = none) :
    answers.foldl (fun s a => s.noteAnswer a.1 a.2) s = s := by
  induction answers with
  | nil => rfl
  | cons a rest ih =>
    rw [List.foldl_cons]
    rcases noteAnswer_cases s a.1 a.2 with same | ⟨⟨current, stands⟩, _⟩
    · rw [same]
      refine ih fun i stands => ?_
      have none := unasked i stands
      rw [firstAnswer, List.findSome?_eq_none_iff] at none ⊢
      exact fun b mem => none b (List.mem_cons_of_mem _ mem)
    · have none := unasked a.1.place stands
      simp [firstAnswer, current] at none

theorem noteAnswers_stirred (answers : List (Letter × Outcome))
    (abides : s.stirred = [] ∨ s.stirred = s.turn.toList) :
    answers.foldl (fun s a => s.noteAnswer a.1 a.2) s = s ∨
      (answers.foldl (fun s a => s.noteAnswer a.1 a.2) s).stirred = s.turn.toList := by
  induction answers generalizing s with
  | nil => exact .inl rfl
  | cons a rest ih =>
    rw [List.foldl_cons]
    rcases noteAnswer_cases s a.1 a.2 with same | ⟨_, stirred⟩
    · rw [same]
      exact ih abides
    · have turn : (s.noteAnswer a.1 a.2).turn = s.turn := by
        obtain ⟨_, _, frame⟩ := noteAnswer_frame s a.1 a.2
        rw [frame]
      have woken : (s.noteAnswer a.1 a.2).stirred = (s.noteAnswer a.1 a.2).turn.toList := by
        rw [turn, stirred abides]
      right
      rcases ih (.inr woken) with same | later
      · rw [same, stirred abides]
      · rw [later, turn]

section
variable {handle : Handle} {r : Resident}

theorem awaits_of_reads (found : s.world.residents[handle]? = some r) (going : r.mustStop = false)
    (awaits : (s.residentReads handle).Awaits) : s.Awaits := by
  obtain ⟨stirred, errands, same, reads⟩ := residentReads_eq found going
  rw [same, Scene.awaits_iff] at awaits
  obtain ⟨i, h, r', sent, here, answers⟩ := awaits
  dsimp only at sent here answers
  rw [Scene.awaits_iff]
  rcases getElem?_set_cases here with ⟨_, rfl, _⟩ | ⟨_, before⟩
  · exact absurd (Resident.firstAnswer_of_read rfl) answers
  · obtain ⟨e, stands, waits⟩ := Option.map_eq_some_iff.mp ((reads i).symm.trans sent)
    rcases noted_cases s.round i r.answers e with unchanged | ⟨_, outcome, came⟩
    · exact ⟨i, h, r', by rw [stands, ← unchanged, waits], before, answers⟩
    · rw [came] at waits
      cases waits

theorem residentReads_unasked (found : s.world.residents[handle]? = some r)
    (going : r.mustStop = false)
    (unasked : ∀ i : Nat, s.errands[i]? = some (.sent none) →
      firstAnswer s.round i r.answers = none) :
    s.residentReads handle =
      { s with world.residents := s.world.residents.setIfInBounds handle r.afterReading } := by
  rw [residentReads_foldl found going]
  exact noteAnswers_unasked unasked

theorem awaits_unasked (found : s.world.residents[handle]? = some r) (going : r.mustStop = false)
    (unasked : ∀ i : Nat, s.errands[i]? = some (.sent none) →
      firstAnswer s.round i r.answers = none) :
    (s.residentReads handle).Awaits ↔ s.Awaits := by
  refine ⟨awaits_of_reads found going, ?_⟩
  rw [residentReads_unasked found going unasked, Scene.awaits_iff, Scene.awaits_iff]
  rintro ⟨i, h, r', sent, here, answers⟩
  have other : handle ≠ h := by
    rintro rfl
    rw [found] at here
    cases here
    exact answers (unasked i sent)
  exact ⟨i, h, r', sent, by rw [Array.getElem?_setIfInBounds, if_neg other, here], answers⟩

theorem residentReads_asked (found : s.world.residents[handle]? = some r)
    (going : r.mustStop = false) (abides : s.stirred = [] ∨ s.stirred = s.turn.toList) {i : Nat}
    (sent : s.errands[i]? = some (.sent none)) (answers : firstAnswer s.round i r.answers ≠ none) :
    (s.residentReads handle).stirred = s.turn.toList := by
  have folded := residentReads_foldl found going
  rcases noteAnswers_stirred r.answers (s := { s with
    world.residents := s.world.residents.setIfInBounds handle r.afterReading }) abides with same | stirred
  · obtain ⟨_, errands, frame, reads⟩ := residentReads_eq found going
    have still := reads i
    rw [folded, same] at frame
    have unchanged : errands = s.errands := (congrArg Scene.errands frame).symm
    obtain ⟨outcome, answered⟩ := Option.ne_none_iff_exists'.mp answers
    simp [unchanged, sent, noted, answered] at still
  · rw [folded, stirred]

end

/-! ### Turns -/

/-- Those who were called have had turns: some have read, and some have listened. -/
structure Served (s s' : Scene) : Prop where
  frame : ∃ residents errands audience cues stirred called, s' = { s with
    world.residents := residents, errands, audience, cues, stirred, called }
  orderly : s'.Orderly
  reaches : ∀ handle, s.Reaches handle → s'.Reaches handle
  noted : ∀ i : Nat, s'.errands[i]? = s.errands[i]? ∨
    s.errands[i]? = some (.sent none) ∧ ∃ outcome, s'.errands[i]? = some (.sent (some outcome))
  stirred : s'.errands = s.errands ∧ s'.stirred = s.stirred ∧ (s'.Awaits ↔ s.Awaits) ∨
    s.Awaits ∧ s'.stirred = s.turn.toList
  awaits : s'.Awaits → s.Awaits
  cues : ∀ c ∈ s.cues, c ∈ s'.cues
  later : ∀ c ∈ s'.cues, c ∈ s.cues ∨ s.now < c.time
  partCues : s'.partCues = s.partCues
  hush : s'.hush = s.hush

namespace Served

theorem turn (served : Served s s') : s'.turn = s.turn := by
  obtain ⟨_, _, _, _, _, _, rfl⟩ := served.frame
  rfl

theorem now (served : Served s s') : s'.now = s.now := by
  obtain ⟨_, _, _, _, _, _, rfl⟩ := served.frame
  rfl

theorem joiners (served : Served s s') : s'.joiners = s.joiners := by
  obtain ⟨_, _, _, _, _, _, rfl⟩ := served.frame
  rfl

theorem trans (first : Served s s') (second : Served s' s'') : Served s s'' where
  frame := by
    obtain ⟨_, _, _, _, _, _, rfl⟩ := first.frame
    obtain ⟨_, _, _, _, _, _, rfl⟩ := second.frame
    exact ⟨_, _, _, _, _, _, rfl⟩
  orderly := second.orderly
  reaches handle reaches := second.reaches handle (first.reaches handle reaches)
  noted i := by
    rcases second.noted i with same | ⟨sent, outcome, came⟩
    · rw [same]
      exact first.noted i
    · rcases first.noted i with same | ⟨_, outcome', came'⟩
      · exact .inr ⟨same ▸ sent, outcome, came⟩
      · rw [came'] at sent
        cases sent
  stirred := by
    rcases second.stirred with ⟨errands, stirred, awaits⟩ | ⟨awaits, stirred⟩
    · rcases first.stirred with ⟨errands', stirred', awaits'⟩ | ⟨awaits', stirred'⟩
      · exact .inl ⟨errands.trans errands', stirred.trans stirred', awaits.trans awaits'⟩
      · exact .inr ⟨awaits', stirred.trans stirred'⟩
    · exact .inr ⟨first.awaits awaits, first.turn ▸ stirred⟩
  awaits later := first.awaits (second.awaits later)
  cues c mem := second.cues c (first.cues c mem)
  later c mem := by
    rcases second.later c mem with before | later
    · exact first.later c before
    · exact .inr (first.now ▸ later)
  partCues := second.partCues.trans first.partCues
  hush := second.hush.trans first.hush

theorem abides (served : Served s s') (abides : s.Abides) : s'.Abides := by
  intro awaits
  rw [served.turn]
  rcases served.stirred with ⟨_, same, _⟩ | ⟨_, stirred⟩
  · rw [same]
    exact abides (served.awaits awaits)
  · exact .inr stirred

theorem bare_eq (served : Served s s') : s'.bare = s.bare := by
  have stirred : (if s'.Awaits then s'.turn.toList else s'.stirred) =
      if s.Awaits then s.turn.toList else s.stirred := by
    rw [served.turn]
    rcases served.stirred with ⟨_, same, awaits⟩ | ⟨awaits, same⟩
    · simp only [same, awaits]
    · rw [same, if_pos awaits, ite_self]
  rw [Scene.bare, Scene.bare, served.hush, served.partCues, stirred]

theorem of_listening (orderly : s.Orderly) {audience : Audience} {cues : List Cue}
    {called : List Player} (kept : ∀ c ∈ s.cues, c ∈ cues)
    (later : ∀ c ∈ cues, c ∈ s.cues ∨ s.now < c.time)
    (parts : cues.filter (·.player.isPart) = s.partCues) :
    Served s { s with audience, cues, called } where
  frame := ⟨_, _, _, _, _, _, rfl⟩
  orderly := Noise.orderly ⟨_, _, _, _, _, rfl⟩ orderly
  reaches _ := id
  noted _ := .inl rfl
  stirred := .inl ⟨rfl, rfl, Iff.rfl⟩
  awaits := id
  cues := kept
  later := later
  partCues := parts
  hush := rfl

theorem listenerWorks (orderly : s.Orderly) (alone : s.joiners = []) (i : Nat) :
    Served s (s.listenerWorks i) := by
  have worked : Served s { s with audience := s.audience.work s.now i } :=
    .of_listening orderly (fun _ => id) (fun _ => .inl) rfl
  unfold Scene.listenerWorks
  dsimp only
  split
  · exact worked
  · rename_i l found
    have unheard : (if l.isOver then
        Scene.wakeAll { s with audience := s.audience.work s.now i } (s.joiners.map .part)
        else { s with audience := s.audience.work s.now i }) =
          { s with audience := s.audience.work s.now i } := by
      simp [alone, Scene.wakeAll]
    rw [unheard]
    split
    · exact worked
    · rename_i time due
      have upcoming : s.now < time := by
        simp only [Audience.work] at found
        cases before : s.audience.listeners[i]? with
        | none =>
          simp [before] at found
        | some l₀ =>
          have within := (Array.getElem?_eq_some_iff.mp before).1
          simp only [before, Array.getElem?_setIfInBounds, if_pos within, if_true,
            Option.some.injEq] at found
          subst found
          exact l₀.upcoming_work s.now s.audience.ledger time due
      unfold Scene.cue
      split
      · exact worked
      · refine .of_listening orderly (fun _ => List.mem_append_left _) ?_ ?_
        · intro c mem
          refine (List.mem_append.mp mem).imp_right fun new => ?_
          rw [List.mem_singleton.mp new]
          exact upcoming
        · simp [Scene.partCues, Player.isPart]

theorem residentReads (orderly : s.Orderly) (abides : s.Abides) (handle : Handle) :
    Served s (s.residentReads handle) := by
  have orderly' := orderly.residentReads handle
  have hush := hush_residentReads orderly handle
  cases found : s.world.residents[handle]? with
  | none =>
    rw [residentReads_nobody found]
    exact .of_listening orderly (fun _ => id) (fun _ => .inl) rfl
  | some r =>
    have going := orderly.going handle r found
    have awaits := awaits_of_reads found going
    obtain ⟨stirred, errands, same, reads⟩ := residentReads_eq found going
    have woken : (s.residentReads handle).errands = s.errands ∧
        (s.residentReads handle).stirred = s.stirred ∧ ((s.residentReads handle).Awaits ↔ s.Awaits) ∨
        s.Awaits ∧ (s.residentReads handle).stirred = s.turn.toList := by
      by_cases asked : ∃ i : Nat, s.errands[i]? = some (.sent none) ∧
          firstAnswer s.round i r.answers ≠ none
      · obtain ⟨i, sent, answers⟩ := asked
        have awaited := s.awaits_iff.mpr ⟨i, handle, r, sent, found, answers⟩
        exact .inr ⟨awaited, residentReads_asked found going (abides awaited) sent answers⟩
      · have unasked (i : Nat) (sent : s.errands[i]? = some (.sent none)) :
            firstAnswer s.round i r.answers = none := by_contra fun some => asked ⟨i, sent, some⟩
        have unmoved := residentReads_unasked found going unasked
        exact .inl ⟨by rw [unmoved], by rw [unmoved], awaits_unasked found going unasked⟩
    refine ⟨⟨_, _, _, _, _, _, same⟩, orderly', ?_, ?_, woken, awaits, ?_, ?_, ?_, hush⟩
    · rintro h ⟨r₀, here, unasked⟩
      simp only [same, Scene.Reaches, Array.getElem?_setIfInBounds]
      split
      · rename_i mine
        have within := (Array.getElem?_eq_some_iff.mp found).1
        exact ⟨r.afterReading, by rw [if_pos (mine ▸ within)], fun l mem => by cases mem⟩
      · exact ⟨r₀, here, unasked⟩
    · intro i
      rw [same]
      dsimp only
      rw [reads]
      cases stands : s.errands[i]? with
      | none => exact .inl rfl
      | some e => simpa using noted_cases s.round i r.answers e
    · rw [same]
      exact fun _ => id
    · rw [same]
      exact fun _ => .inl
    · rw [same]
      rfl

theorem work (orderly : s.Orderly) (abides : s.Abides) (alone : s.joiners = []) (p : Player) :
    Served s (s.work p) := by
  cases p with
  | part place => exact .of_listening orderly (fun _ => id) (fun _ => .inl) rfl
  | resident handle => exact .residentReads orderly abides handle
  | listener i => exact .listenerWorks orderly alone i

theorem workRound (orderly : s.Orderly) (abides : s.Abides) (alone : s.joiners = []) (turns : Nat) :
    Served s (s.workRound turns) := by
  have idle : Served s s := .of_listening orderly (fun _ => id) (fun _ => .inl) rfl
  apply Scene.workRound_induction (P := Served s) idle
  intro s' next rest _ served
  have taken : Served s' { s' with called := rest } :=
    .of_listening served.orderly (fun _ => id) (fun _ => .inl) rfl
  have before := served.trans taken
  have alone' := before.joiners.trans alone
  exact before.trans (.work before.orderly (before.abides abides) alone' next)

end Served

/-! ### Looks in vain -/

theorem InVain.orderly (vain : InVain s s') (orderly : s.Orderly) : s'.Orderly := by
  have posted (i : Nat) (sent : ∃ e, s.errands[i]? = some e ∧ ∀ time failure, e ≠ .delayed time failure) :
      ∃ e, s'.errands[i]? = some e ∧ ∀ time failure, e ≠ .delayed time failure := by
    rcases vain.errands i with same | ⟨outcome, _, taken⟩
    · rwa [same]
    · exact ⟨.ended outcome, taken, by simp⟩
  obtain ⟨_, _, rfl⟩ := vain.frame
  exact ⟨orderly.going, orderly.past, fun h r found l mem current =>
    posted l.place (orderly.posted h r found l mem current), orderly.single⟩

theorem InVain.bare_eq (vain : InVain s s') (nobody : s.Awaits ∨ s.stirred = []) :
    s'.bare = s.bare := by
  have partCues : s'.partCues = s.partCues := by
    obtain ⟨_, _, rfl⟩ := vain.frame
    rfl
  have stirred : (if s'.Awaits then s'.turn.toList else s'.stirred) =
      if s.Awaits then s.turn.toList else s.stirred := by
    simp only [vain.awaits, vain.turn]
    rcases nobody with awaits | none
    · rw [if_pos awaits, if_pos awaits]
    · have less := vain.stirred
      rw [none, List.sublist_nil] at less
      rw [none, less]
  rw [Scene.bare, Scene.bare, vain.hush_eq, partCues, stirred]

/-! ### Time -/

def Player.place? : Player → Option Nat
  | .part place => some place
  | _ => none

def stirAll (stirred places : List Nat) : List Nat :=
  places.foldl (fun stirred place => if place ∈ stirred then stirred else stirred ++ [place]) stirred

theorem stirAll_cons (stirred : List Nat) (place : Nat) (rest : List Nat) :
    stirAll stirred (place :: rest) =
      stirAll (if place ∈ stirred then stirred else stirred ++ [place]) rest := rfl

theorem mem_stirAll {stirred places : List Nat} {q : Nat} :
    q ∈ stirAll stirred places ↔ q ∈ stirred ∨ q ∈ places := by
  induction places generalizing stirred with
  | nil => simp [stirAll]
  | cons place rest ih =>
    rw [stirAll_cons, ih]
    split
    · rename_i before
      constructor
      · exact Or.imp_right (List.mem_cons_of_mem _)
      · rintro (old | mem)
        · exact .inl old
        · rcases List.mem_cons.mp mem with rfl | later
          · exact .inl before
          · exact .inr later
    · simp [or_assoc]

theorem nodup_stirAll {stirred : List Nat} (once : stirred.Nodup) (places : List Nat) :
    (stirAll stirred places).Nodup := by
  induction places generalizing stirred with
  | nil => exact once
  | cons place rest ih =>
    rw [stirAll_cons]
    refine ih ?_
    split
    · exact once
    · rename_i fresh
      refine List.nodup_append.mpr ⟨once, List.nodup_singleton place, ?_⟩
      rintro q mem q' mem' rfl
      exact fresh (List.mem_singleton.mp mem' ▸ mem)

theorem wakeAll_eq (s : Scene) (players : List Player) :
    s.wakeAll players = { s with
      stirred := stirAll s.stirred (players.filterMap Player.place?)
      called := s.called ++ players.filter (!·.isPart) } := by
  induction players generalizing s with
  | nil => simp [Scene.wakeAll, stirAll]
  | cons p rest ih =>
    have first : s.wakeAll (p :: rest) = (s.wake p).wakeAll rest := rfl
    rw [first, ih]
    cases p with
    | part place =>
      have placed : (Player.part place :: rest).filterMap Player.place? =
          place :: rest.filterMap Player.place? := rfl
      have others : (Player.part place :: rest).filter (!·.isPart) = rest.filter (!·.isPart) := rfl
      rw [placed, others, stirAll_cons, Scene.wake]
      split <;> rfl
    | resident handle =>
      have called : (s.called ++ [.resident handle]) ++ rest.filter (!·.isPart) =
          s.called ++ (Player.resident handle :: rest).filter (!·.isPart) := List.append_assoc _ _ _
      rw [← called]
      rfl
    | listener i =>
      have called : (s.called ++ [.listener i]) ++ rest.filter (!·.isPart) =
          s.called ++ (Player.listener i :: rest).filter (!·.isPart) := List.append_assoc _ _ _
      rw [← called]
      rfl

theorem advance_eq (s : Scene) (time : Nat) : s.advance time = { s with
    now := time
    cues := s.cues.filter (time < ·.time)
    stirred := stirAll s.stirred (((s.cues.filter (·.time ≤ time)).map (·.player)).filterMap Player.place?)
    called := s.called ++ ((s.cues.filter (·.time ≤ time)).map (·.player)).filter (!·.isPart) } :=
  wakeAll_eq _ _

theorem called_work (s : Scene) (p : Player) : (s.work p).called = s.called := by
  cases p with
  | part place => rfl
  | resident handle =>
    refine Scene.residentReads_induction (P := fun s' => s'.called = s.called) rfl ?_
    intro s' l outcome same
    obtain ⟨_, _, frame⟩ := noteAnswer_frame s' l outcome
    rw [frame]
    exact same
  | listener i =>
    refine Scene.listenerWorks_induction (P := fun s' => s'.called = s.called) rfl ?_ ?_
    · intro s' places same
      obtain ⟨_, frame⟩ := wakeParts_frame s' places
      rw [frame]
      exact same
    · intro s' time same
      unfold Scene.cue
      split
      · exact same
      · exact same

theorem workRound_uncalled (uncalled : s.called = []) (turns : Nat) : s.workRound turns = s := by
  cases turns with
  | zero => rfl
  | succ turns =>
    rw [Scene.workRound, uncalled]

theorem called_workRound (s : Scene) (turns : Nat) :
    (s.workRound turns).called = s.called.drop turns := by
  induction turns generalizing s with
  | zero => rfl
  | succ turns ih =>
    cases waiting : s.called with
    | nil => rw [workRound_uncalled waiting, waiting, List.drop_nil]
    | cons next rest =>
      rw [Scene.workRound, waiting]
      dsimp only
      rw [ih, called_work, List.drop_succ_cons]

theorem mem_stirred_advance {time q : Nat} : q ∈ (s.advance time).stirred ↔
    q ∈ s.stirred ∨ ∃ due, ⟨due, .part q⟩ ∈ s.cues ∧ due ≤ time := by
  rw [advance_eq]
  dsimp only
  rw [mem_stirAll]
  simp only [List.mem_filterMap, List.mem_map, List.mem_filter, decide_eq_true_eq]
  apply or_congr_right
  constructor
  · rintro ⟨_, ⟨⟨due, p⟩, ⟨mem, past⟩, rfl⟩, place⟩
    cases p with
    | part place' =>
      cases place
      exact ⟨due, mem, past⟩
    | resident | listener => cases place
  · rintro ⟨due, mem, past⟩
    exact ⟨.part q, ⟨_, ⟨mem, past⟩, rfl⟩, rfl⟩

theorem places_filter (cues : List Cue) :
    ((cues.filter (·.player.isPart)).map (·.player)).filterMap Player.place? =
      (cues.map (·.player)).filterMap Player.place? := by
  induction cues with
  | nil => rfl
  | cons c rest ih =>
    obtain ⟨time, p⟩ := c
    cases p with
    | part place => exact congrArg (place :: ·) ih
    | resident | listener => exact ih

theorem others_filter (cues : List Cue) :
    ((cues.filter (·.player.isPart)).map (·.player)).filter (!·.isPart) = [] := by
  rw [List.filter_eq_nil_iff]
  intro p mem
  obtain ⟨c, here, rfl⟩ := List.mem_map.mp mem
  simp [(List.mem_filter.mp here).2]

theorem bare_advance (unawaited : ¬ s.Awaits) (time : Nat) :
    (s.advance time).bare = s.bare.advance time := by
  have cues (keep : Cue → Bool) :
      s.partCues.filter keep = (s.cues.filter keep).filter (·.player.isPart) := by
    simp only [Scene.partCues, List.filter_filter, Bool.and_comm]
  have bare : s.bare = { s.hush with cues := s.partCues, stirred := s.stirred } := by
    rw [Scene.bare, if_neg unawaited]
  rw [bare, advance_eq, advance_eq]
  dsimp only
  rw [cues, cues, places_filter, others_filter, Scene.bare, if_neg]
  · rfl
  · exact unawaited

end
end FlowRuntime.Rehearsal
