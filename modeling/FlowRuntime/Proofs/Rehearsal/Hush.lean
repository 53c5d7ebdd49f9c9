import FlowRuntime.Proofs.Rehearsal.Prompt

/-!
A scene without its listeners. What instances have not read yet they will read in their
order, and what listeners do is no concern of anyone else; so of each scene there is one in
which everybody has read, nobody listens and nobody waits. We verify that instances and
listeners, whenever they have their turns, do not change it. Two scenes in which the same
answers have come, and which differ at most in whether older mail has been read, are alike.
-/
namespace FlowRuntime.Rehearsal

/-! ### Answers to come -/

def Errand.heard : Errand → Errand
  | .sent (some outcome) => .ended outcome
  | e => e

/-- The first of these answers that is one to this errand of the fan-out of this number. -/
def firstAnswer (round i : Nat) (answers : List (Letter × Outcome)) : Option Outcome :=
  answers.findSome? fun a => if a.1.round = round ∧ a.1.place = i then some a.2 else none

namespace Scene

/-- The answer that an errand will have when everybody has read. -/
def foresees (s : Scene) (i : Nat) : Option Outcome :=
  s.world.residents.toList.findSome? fun r => firstAnswer s.round i r.answers

def foreseen (s : Scene) (i : Nat) : Errand → Errand
  | .sent none => ((s.foresees i).map Errand.ended).getD (.sent none)
  | e => e.heard

def nobody (s : Scene) : Audience := .empty (.empty s.run.context.run none) ⟨0, 0⟩ 0

/-- As it is when everybody has read, and without those who listen or wait. -/
def hush (s : Scene) : Scene :=
  { s with
    world.residents := s.world.residents.map Resident.afterReading
    errands := s.errands.mapIdx s.foreseen
    audience := s.nobody
    cues := []
    stirred := []
    called := []
    joiners := [] }

/-- Whether an answer to one of the errands is still to be read. -/
def Awaits (s : Scene) : Prop :=
  ∃ i, s.errands[i]? = some (.sent none) ∧ s.foresees i ≠ none

/-- Nobody has been shut down, and mail is of the fan-outs so far; a letter of the current one belongs
to an errand that has been sent, and to no other resident than it. -/
structure Orderly (s : Scene) : Prop where
  going : ∀ (handle : Handle) r, s.world.residents[handle]? = some r → r.mustStop = false
  past : ∀ (handle : Handle) r, s.world.residents[handle]? = some r → ∀ l ∈ r.mail, l.round ≤ s.round
  posted : ∀ (handle : Handle) r, s.world.residents[handle]? = some r → ∀ l ∈ r.mail,
    l.round = s.round → ∃ e, s.errands[l.place]? = some e ∧ ∀ time failure, e ≠ .delayed time failure
  single : ∀ (handle handle' : Handle) r r', s.world.residents[handle]? = some r →
    s.world.residents[handle']? = some r' → ∀ l ∈ r.mail, ∀ l' ∈ r'.mail,
    l.round = s.round → l'.round = s.round → l.place = l'.place → handle = handle'

end Scene

theorem Errand.heard_heard (e : Errand) : e.heard.heard = e.heard := by
  cases e with
  | sent answer => cases answer <;> rfl
  | delayed | ended => rfl

theorem Errand.heard_eq_sent {e : Errand} : e.heard = .sent none ↔ e = .sent none := by
  cases e with
  | sent answer => cases answer <;> simp [Errand.heard]
  | delayed | ended => simp [Errand.heard]

theorem Scene.foreseen_of_ne {s : Scene} {i : Nat} {e : Errand} (other : e ≠ .sent none) :
    s.foreseen i e = e.heard := by
  cases e with
  | sent answer =>
    cases answer with
    | none => exact absurd rfl other
    | some outcome => rfl
  | delayed | ended => rfl

section
variable {round i : Nat} {answers : List (Letter × Outcome)} {r : Resident} {s s' s'' n n' : Scene}

theorem exists_of_firstAnswer {outcome : Outcome} (found : firstAnswer round i answers = some outcome) :
    ∃ a ∈ answers, a.1.round = round ∧ a.1.place = i := by
  obtain ⟨a, mem, here⟩ := List.exists_of_findSome?_eq_some found
  split at here
  · rename_i asked
    exact ⟨a, mem, asked⟩
  · cases here

theorem firstAnswer_eq_none (apart : ∀ a ∈ answers, a.1.round = round → a.1.place ≠ i) :
    firstAnswer round i answers = none := by
  rw [firstAnswer, List.findSome?_eq_none_iff]
  intro a mem
  rw [if_neg fun asked => apart a mem asked.1 asked.2]

theorem firstAnswer_append (answers more : List (Letter × Outcome)) :
    firstAnswer round i (answers ++ more) =
      (firstAnswer round i answers <|> firstAnswer round i more) := by
  simp [firstAnswer, List.findSome?_append]

theorem Resident.mem_of_answers {a : Letter × Outcome} (mem : a ∈ r.answers) : a.1 ∈ r.mail :=
  (List.of_mem_zip mem).1

theorem Resident.firstAnswer_ne_none {l : Letter} (mem : l ∈ r.mail) :
    firstAnswer l.round l.place r.answers ≠ none := by
  intro none
  rw [firstAnswer, List.findSome?_eq_none_iff] at none
  obtain ⟨j, within, rfl⟩ := List.getElem_of_mem mem
  have count : r.mail.length = (r.self.handleQueue (r.mail.map (·.op))).2.length := by
    rw [LocalInstance.length_handleQueue, List.length_map]
  have within' : j < (r.self.handleQueue (r.mail.map (·.op))).2.length := count ▸ within
  have answered := none (r.mail[j], (r.self.handleQueue (r.mail.map (·.op))).2[j]) (by
    rw [answers, List.mem_iff_getElem]
    exact ⟨j, by simpa [← count] using within, by simp⟩)
  simp at answered

theorem Resident.firstAnswer_of_read (read : r.mail = []) : firstAnswer round i r.answers = none := by
  rw [answers, read]
  rfl

theorem Resident.answers_append {r' : Resident} {old : List Letter} (mail : r.mail = old ++ r'.mail)
    (read : (r.self.handleQueue (old.map (·.op))).1 = r'.self) :
    r.answers = old.zip (r.self.handleQueue (old.map (·.op))).2 ++ r'.answers := by
  have count := LocalInstance.length_handleQueue r.self (old.map (·.op))
  rw [List.length_map] at count
  rw [answers, mail, List.map_append, LocalInstance.handleQueue_append, read]
  exact List.zip_append count.symm

theorem Resident.ahead_append {r' : Resident} {old : List Letter} (mail : r.mail = old ++ r'.mail)
    (read : (r.self.handleQueue (old.map (·.op))).1 = r'.self) : r.ahead = r'.ahead := by
  rw [ahead, mail, List.map_append, LocalInstance.handleQueue_append, read]
  rfl

theorem Scene.foresees_eq_some {handle : Handle} {outcome : Outcome}
    (found : s.world.residents[handle]? = some r)
    (answered : firstAnswer s.round i r.answers = some outcome)
    (alone : ∀ (h : Handle) r', s.world.residents[h]? = some r' →
      firstAnswer s.round i r'.answers ≠ none → h = handle) : s.foresees i = some outcome := by
  have isSome : (s.foresees i).isSome := by
    rw [Scene.foresees, List.findSome?_isSome_iff]
    exact ⟨r, Array.mem_toList_iff.mpr (Array.mem_of_getElem? found), by simp [answered]⟩
  obtain ⟨outcome', foreseen⟩ := Option.isSome_iff_exists.mp isSome
  obtain ⟨r', mem, here⟩ := List.exists_of_findSome?_eq_some foreseen
  obtain ⟨h, there⟩ := Array.getElem?_of_mem (Array.mem_toList_iff.mp mem)
  obtain rfl := alone h r' there (by simp [here])
  rw [found] at there
  cases there
  rw [foreseen, ← here, answered]

theorem Scene.foresees_congr (size : s'.world.residents.size = s.world.residents.size)
    (same : ∀ (h : Handle) r r', s.world.residents[h]? = some r → s'.world.residents[h]? = some r' →
      firstAnswer s'.round i r'.answers = firstAnswer s.round i r.answers) :
    s'.foresees i = s.foresees i := by
  have through (s : Scene) : s.foresees i =
      (s.world.residents.toList.map fun r => firstAnswer s.round i r.answers).findSome? id := by
    rw [Scene.foresees, List.findSome?_map]
    rfl
  rw [through, through]
  congr 1
  apply List.ext_getElem (by simp [size])
  intro h within within'
  simp only [List.getElem_map, Array.getElem_toList]
  simp only [List.length_map, Array.length_toList] at within within'
  exact same h _ _ (Array.getElem?_eq_getElem within') (Array.getElem?_eq_getElem within)

/-! ### Listeners -/

/-- Only those who listen have done anything, and others may have been woken or wait. -/
def Noise (s s' : Scene) : Prop :=
  ∃ audience cues stirred called joiners, s' = { s with audience, cues, stirred, called, joiners }

namespace Noise

theorem refl (s : Scene) : Noise s s := ⟨_, _, _, _, _, rfl⟩

theorem trans (first : Noise s s') (second : Noise s' s'') : Noise s s'' := by
  obtain ⟨_, _, _, _, _, rfl⟩ := first
  obtain ⟨_, _, _, _, _, rfl⟩ := second
  exact ⟨_, _, _, _, _, rfl⟩

theorem hush_eq (noise : Noise s s') : s'.hush = s.hush := by
  obtain ⟨_, _, _, _, _, rfl⟩ := noise
  rfl

theorem orderly (noise : Noise s s') (orderly : s.Orderly) : s'.Orderly := by
  obtain ⟨_, _, _, _, _, rfl⟩ := noise
  exact ⟨orderly.going, orderly.past, orderly.posted, orderly.single⟩

theorem foldl {ι : Type} {f : Scene → ι → Scene} (each : ∀ s i, Noise s (f s i)) (s : Scene)
    (items : List ι) : Noise s (items.foldl f s) := by
  refine List.foldlRecOn items f (refl s) ?_
  intro s' kept i _
  exact kept.trans (each s' i)

theorem wake (s : Scene) (p : Player) : Noise s (s.wake p) := by
  apply Scene.wake_induction (refl s)
  · intro place
    exact ⟨_, _, _, _, _, rfl⟩
  · exact ⟨_, _, _, _, _, rfl⟩

theorem wakeAll (s : Scene) (players : List Player) : Noise s (s.wakeAll players) :=
  foldl wake s players

theorem cue (s : Scene) (time : Nat) (p : Player) : Noise s (s.cue time p) := by
  unfold Scene.cue
  split
  · exact refl s
  · exact ⟨_, _, _, _, _, rfl⟩

theorem cueAt (s : Scene) (time : Option Nat) (place : Nat) : Noise s (s.cueAt time place) := by
  apply Scene.cueAt_induction (refl s)
  intro time _
  exact cue s time _

theorem dropCues (s : Scene) (p : Player) : Noise s (s.dropCues p) := ⟨_, _, _, _, _, rfl⟩

theorem see (s : Scene) (run : Run) : Noise { s with run := run } (s.see run) := by
  apply Scene.see_induction (P := Noise { s with run := run }) (refl _)
  · intro s' t noise
    exact noise.trans ⟨_, _, _, _, _, rfl⟩
  · intro s' players noise
    exact noise.trans (wakeAll s' players)

theorem listen (s : Scene) (l : Listener) : Noise s (s.listen l) := by
  have added : Noise s { s with audience := s.audience.add l } := ⟨_, _, _, _, _, rfl⟩
  exact added.trans (wake _ _)

end Noise

/-! ### Reading -/

def noted (round i : Nat) (answers : List (Letter × Outcome)) : Errand → Errand
  | .sent none => .sent (firstAnswer round i answers)
  | e => e

theorem noted_nil (round i : Nat) (e : Errand) : noted round i [] e = e := by
  cases e with
  | sent answer => cases answer <;> rfl
  | delayed | ended => rfl

theorem wakeParts_frame (s : Scene) (places : List Nat) :
    ∃ stirred, s.wakeAll (places.map .part) = { s with stirred } := by
  induction places generalizing s with
  | nil => exact ⟨_, rfl⟩
  | cons place rest ih =>
    obtain ⟨stirred, woken⟩ := ih (s.wake (.part place))
    have awake : ∃ stirred, s.wake (.part place) = { s with stirred } := by
      simp only [Scene.wake]
      split
      · exact ⟨_, rfl⟩
      · exact ⟨_, rfl⟩
    obtain ⟨_, same⟩ := awake
    rw [same] at woken
    refine ⟨stirred, ?_⟩
    rw [← woken, ← same]
    rfl

theorem noteAnswer_frame (s : Scene) (l : Letter) (outcome : Outcome) :
    ∃ stirred errands, s.noteAnswer l outcome = { s with stirred, errands } := by
  unfold Scene.noteAnswer
  split
  · exact ⟨_, _, rfl⟩
  · split
    · obtain ⟨stirred, same⟩ :=
        wakeParts_frame (s.setErrand l.place (.sent (some outcome))) s.turn.toList
      exact ⟨stirred, _, same⟩
    · exact ⟨_, _, rfl⟩

theorem noted_of_ne {e : Errand} (other : e ≠ .sent none) : noted round i answers e = e := by
  cases e with
  | sent answer =>
    cases answer with
    | none => exact absurd rfl other
    | some outcome => rfl
  | delayed | ended => rfl

theorem noted_cases (round i : Nat) (answers : List (Letter × Outcome)) (e : Errand) :
    noted round i answers e = e ∨
      e = .sent none ∧ ∃ outcome, noted round i answers e = .sent (some outcome) := by
  by_cases waits : e = .sent none
  · subst waits
    cases answered : firstAnswer round i answers with
    | none => simp [noted, answered]
    | some outcome => simp [noted, answered]
  · exact .inl (noted_of_ne waits)

theorem errands_noteAnswer (s : Scene) (l : Letter) (outcome : Outcome) (i : Nat) :
    (s.noteAnswer l outcome).errands[i]? = s.errands[i]?.map (noted s.round i [(l, outcome)]) := by
  by_cases expected : l.round = s.round ∧ s.errands[l.place]? = some (.sent none)
  · obtain ⟨current, stands⟩ := expected
    have within := (Array.getElem?_eq_some_iff.mp stands).1
    unfold Scene.noteAnswer
    rw [if_neg (not_not_intro current), stands]
    dsimp only
    rw [(Livelier.wakeAll _ _).errands, Scene.setErrand, Array.getElem?_setIfInBounds]
    by_cases here : l.place = i
    · subst here
      rw [if_pos rfl, if_pos within, stands]
      simp [noted, firstAnswer, current]
    · rw [if_neg here]
      cases s.errands[i]? with
      | none => rfl
      | some e =>
        by_cases waits : e = .sent none
        · simp [waits, noted, firstAnswer, here]
        · rw [Option.map_some, noted_of_ne waits]
  · have unmoved : s.noteAnswer l outcome = s := by
      unfold Scene.noteAnswer
      split
      · rfl
      · rename_i current
        split
        · rename_i stands
          exact absurd ⟨not_not.mp current, stands⟩ expected
        · rfl
    rw [unmoved]
    cases stands : s.errands[i]? with
    | none => rfl
    | some e =>
      by_cases waits : e = .sent none
      · subst waits
        have apart : ¬ (l.round = s.round ∧ l.place = i) := by
          rintro ⟨current, rfl⟩
          exact expected ⟨current, stands⟩
        simp [noted, firstAnswer, apart]
      · rw [Option.map_some, noted_of_ne waits]

theorem noteAnswers_frame (s : Scene) (answers : List (Letter × Outcome)) :
    ∃ stirred errands,
      answers.foldl (fun s a => s.noteAnswer a.1 a.2) s = { s with stirred, errands } := by
  induction answers generalizing s with
  | nil => exact ⟨_, _, rfl⟩
  | cons a rest ih =>
    obtain ⟨_, _, first⟩ := noteAnswer_frame s a.1 a.2
    obtain ⟨stirred, errands, others⟩ := ih (s.noteAnswer a.1 a.2)
    rw [first] at others
    refine ⟨stirred, errands, ?_⟩
    rw [List.foldl_cons, first, others]

theorem errands_noteAnswers (s : Scene) (answers : List (Letter × Outcome)) (i : Nat) :
    (answers.foldl (fun s a => s.noteAnswer a.1 a.2) s).errands[i]? =
      s.errands[i]?.map (noted s.round i answers) := by
  induction answers generalizing s with
  | nil =>
    rw [List.foldl_nil]
    cases s.errands[i]? with
    | none => rfl
    | some e => rw [Option.map_some, noted_nil]
  | cons a rest ih =>
    obtain ⟨_, _, frame⟩ := noteAnswer_frame s a.1 a.2
    have round : (s.noteAnswer a.1 a.2).round = s.round := by rw [frame]
    rw [List.foldl_cons, ih, errands_noteAnswer, round, Option.map_map]
    congr 1
    funext e
    have split : firstAnswer s.round i (a :: rest) =
        (firstAnswer s.round i [a] <|> firstAnswer s.round i rest) := firstAnswer_append [a] rest
    cases e with
    | sent answer =>
      cases answer with
      | none =>
        simp only [Function.comp, noted, split]
        cases firstAnswer s.round i [a] <;> rfl
      | some outcome => rfl
    | delayed | ended => rfl

theorem residentReads_eq {handle : Handle} (found : s.world.residents[handle]? = some r)
    (going : r.mustStop = false) : ∃ stirred errands,
      s.residentReads handle = { s with
        world.residents := s.world.residents.setIfInBounds handle r.afterReading, stirred, errands } ∧
      ∀ i : Nat, errands[i]? = s.errands[i]?.map (noted s.round i r.answers) := by
  rw [residentReads_foldl found going]
  obtain ⟨stirred, errands, frame⟩ := noteAnswers_frame { s with
    world.residents := s.world.residents.setIfInBounds handle r.afterReading } r.answers
  refine ⟨stirred, errands, frame, ?_⟩
  intro i
  have looked := errands_noteAnswers { s with
    world.residents := s.world.residents.setIfInBounds handle r.afterReading } r.answers i
  rw [frame] at looked
  exact looked

theorem Scene.Orderly.residentReads (orderly : s.Orderly) (handle : Handle) :
    (s.residentReads handle).Orderly := by
  cases found : s.world.residents[handle]? with
  | none => rwa [residentReads_nobody found]
  | some r =>
    obtain ⟨_, errands, same, noted⟩ := residentReads_eq found (orderly.going handle r found)
    rw [same]
    have looked (h : Handle) (r' : Resident)
        (here : (s.world.residents.setIfInBounds handle r.afterReading)[h]? = some r') :
        r' = r.afterReading ∨ s.world.residents[h]? = some r' := by
      rcases getElem?_set_cases here with ⟨_, same, _⟩ | ⟨_, before⟩
      · exact .inl same
      · exact .inr before
    have unread (h : Handle) (r' : Resident) (l : Letter)
        (here : (s.world.residents.setIfInBounds handle r.afterReading)[h]? = some r')
        (mem : l ∈ r'.mail) : s.world.residents[h]? = some r' := by
      rcases looked h r' here with rfl | before
      · cases mem
      · exact before
    constructor
    · intro h r' here
      rcases looked h r' here with rfl | before
      · exact orderly.going handle r found
      · exact orderly.going h r' before
    · intro h r' here l mem
      exact orderly.past h r' (unread h r' l here mem) l mem
    · intro h r' here l mem current
      obtain ⟨e, stands, sent⟩ := orderly.posted h r' (unread h r' l here mem) l mem current
      refine ⟨_, (noted l.place).trans (by rw [stands]; rfl), ?_⟩
      intro time failure same
      cases e with
      | delayed time failure => exact sent time failure rfl
      | ended outcome => cases same
      | sent answer => cases answer <;> cases same
    · intro h h' r₁ r₂ here there l mem l' mem'
      exact orderly.single h h' r₁ r₂ (unread h r₁ l here mem) (unread h' r₂ l' there mem') l mem l' mem'

theorem foresees_of_reader (orderly : s.Orderly) {handle : Handle} {i : Nat} {outcome : Outcome}
    (found : s.world.residents[handle]? = some r)
    (answered : firstAnswer s.round i r.answers = some outcome) : s.foresees i = some outcome := by
  refine Scene.foresees_eq_some found answered ?_
  intro h r' there some
  obtain ⟨_, answered'⟩ := Option.ne_none_iff_exists'.mp some
  obtain ⟨a, mem, round, place⟩ := exists_of_firstAnswer answered
  obtain ⟨a', mem', round', place'⟩ := exists_of_firstAnswer answered'
  exact orderly.single h handle r' r there found a'.1 (Resident.mem_of_answers mem') a.1
    (Resident.mem_of_answers mem) round' round (place'.trans place.symm)

theorem foreseen_read (orderly : s.Orderly) {handle : Handle}
    (found : s.world.residents[handle]? = some r) (stirred : List Nat) (errands : Array Errand)
    (i : Nat) (e : Errand) :
    Scene.foreseen { s with
        world.residents := s.world.residents.setIfInBounds handle r.afterReading, stirred, errands } i
      (noted s.round i r.answers e) = s.foreseen i e := by
  by_cases waits : e = .sent none
  · subst waits
    cases answered : firstAnswer s.round i r.answers with
    | some outcome =>
      simp [noted, answered, Scene.foreseen, foresees_of_reader orderly found answered, Errand.heard]
    | none =>
      have foresees : Scene.foresees { s with
          world.residents := s.world.residents.setIfInBounds handle r.afterReading
          stirred, errands } i = s.foresees i := by
        refine Scene.foresees_congr (by simp) ?_
        intro h r₁ r₂ before after
        rcases getElem?_set_cases after with ⟨here, read, _⟩ | ⟨_, same⟩
        · subst here read
          rw [found] at before
          cases before
          rw [answered]
          exact Resident.firstAnswer_of_read rfl
        · rw [before] at same
          cases same
          rfl
      simp [noted, answered, Scene.foreseen, foresees]
  · rw [noted_of_ne waits, Scene.foreseen_of_ne waits, Scene.foreseen_of_ne waits]

/-- Whoever reads its mail does not change what comes of it. -/
theorem hush_residentReads (orderly : s.Orderly) (handle : Handle) :
    (s.residentReads handle).hush = s.hush := by
  cases found : s.world.residents[handle]? with
  | none => rw [residentReads_nobody found]
  | some r =>
    obtain ⟨stirred, errands, same, reads⟩ := residentReads_eq found (orderly.going handle r found)
    rw [same]
    have residents : (s.world.residents.setIfInBounds handle r.afterReading).map
        Resident.afterReading = s.world.residents.map Resident.afterReading := by
      apply Array.ext_getElem?
      intro h
      simp only [Array.getElem?_map, Array.getElem?_setIfInBounds]
      split
      · rename_i here
        have within := (Array.getElem?_eq_some_iff.mp found).1
        subst here
        rw [if_pos within, found]
        rfl
      · rfl
    have errands : errands.mapIdx (Scene.foreseen { s with
          world.residents := s.world.residents.setIfInBounds handle r.afterReading, stirred, errands }) =
        s.errands.mapIdx s.foreseen := by
      apply Array.ext_getElem?
      intro i
      rw [Array.getElem?_mapIdx, Array.getElem?_mapIdx, reads, Option.map_map]
      congr 1
      funext e
      exact foreseen_read orderly found stirred errands i e
    simp only [Scene.hush, residents, errands]
    rfl

/-! ### Scenes that are alike -/

/-- Whether a letter is of no consequence to the errands: it is of an earlier fan-out, or the answer
to its errand is known. -/
def Scene.IsIdle (s : Scene) (l : Letter) : Prop :=
  l.round = s.round → ∃ outcome, s.errands[l.place]?.map Errand.heard = some (.ended outcome)

/-- One has read more of its mail than the other, but only letters of no consequence. -/
structure Resident.Ahead (s : Scene) (r r' : Resident) : Prop where
  mustStop : r'.mustStop = r.mustStop
  mail : ∃ old, r.mail = old ++ r'.mail ∧ (r.self.handleQueue (old.map (·.op))).1 = r'.self ∧
    ∀ l ∈ old, s.IsIdle l

/-- The second is like the first, but those who listen apart, and that there more may have been read. -/
structure Alike (s n : Scene) : Prop where
  frame : ∃ residents errands audience cues stirred called joiners, n = { s with
    world.residents := residents, errands, audience, cues, stirred, called, joiners }
  errands : n.errands.map Errand.heard = s.errands.map Errand.heard
  size : n.world.residents.size = s.world.residents.size
  ahead : ∀ (handle : Handle) r r', s.world.residents[handle]? = some r →
    n.world.residents[handle]? = some r' → Resident.Ahead s r r'

theorem Alike.getElem? (alike : Alike s n) (i : Nat) :
    n.errands[i]?.map Errand.heard = s.errands[i]?.map Errand.heard := by
  rw [← Array.getElem?_map, alike.errands, Array.getElem?_map]

theorem Alike.hush_eq (alike : Alike s n) : n.hush = s.hush := by
  have residents : n.world.residents.map Resident.afterReading =
      s.world.residents.map Resident.afterReading := by
    apply Array.ext (by simp [alike.size])
    intro h within within'
    simp only [Array.size_map] at within within'
    simp only [Array.getElem_map]
    obtain ⟨going, old, mail, read, _⟩ := alike.ahead h _ _ (Array.getElem?_eq_getElem within')
      (Array.getElem?_eq_getElem within)
    simp [Resident.afterReading, going, Resident.ahead_append mail read]
  have errands : n.errands.mapIdx n.foreseen = s.errands.mapIdx s.foreseen := by
    have count : n.errands.size = s.errands.size := by
      simpa using congrArg Array.size alike.errands
    apply Array.ext (by simp [count])
    intro i within within'
    simp only [Array.size_mapIdx] at within within'
    simp only [Array.getElem_mapIdx]
    have heard := alike.getElem? i
    rw [Array.getElem?_eq_getElem within, Array.getElem?_eq_getElem within'] at heard
    simp only [Option.map_some, Option.some.injEq] at heard
    have round : n.round = s.round := by
      obtain ⟨_, _, _, _, _, _, _, rfl⟩ := alike.frame
      rfl
    by_cases waits : s.errands[i] = .sent none
    · have waits' : n.errands[i] = .sent none := by
        rw [← Errand.heard_eq_sent, heard, waits]
        rfl
      have foresees : n.foresees i = s.foresees i := by
        refine Scene.foresees_congr alike.size ?_
        intro h r r' found found'
        obtain ⟨_, old, mail, read, idle⟩ := alike.ahead h r r' found found'
        have past : firstAnswer s.round i (old.zip (r.self.handleQueue (old.map (·.op))).2) = none := by
          apply firstAnswer_eq_none
          rintro a mem current rfl
          obtain ⟨outcome, known⟩ := idle a.1 (List.of_mem_zip mem).1 current
          rw [Array.getElem?_eq_getElem within', waits] at known
          cases known
        rw [round, Resident.answers_append mail read, firstAnswer_append, past]
        rfl
      rw [waits, waits', Scene.foreseen, Scene.foreseen, foresees]
    · have waits' : n.errands[i] ≠ .sent none := by
        rw [Ne, ← Errand.heard_eq_sent, heard, Errand.heard_eq_sent]
        exact waits
      rw [Scene.foreseen_of_ne waits, Scene.foreseen_of_ne waits', heard]
  obtain ⟨_, _, _, _, _, _, _, rfl⟩ := alike.frame
  simp only [Scene.hush] at residents errands ⊢
  rw [residents, errands]
  rfl

theorem Alike.noise (alike : Alike s n) (noise : Noise s s') (noise' : Noise n n') : Alike s' n' := by
  obtain ⟨_, _, _, _, _, rfl⟩ := noise
  obtain ⟨_, _, _, _, _, rfl⟩ := noise'
  obtain ⟨⟨_, _, _, _, _, _, _, rfl⟩, errands, size, ahead⟩ := alike
  exact ⟨⟨_, _, _, _, _, _, _, rfl⟩, errands, size, fun h r r' found found' =>
    ⟨(ahead h r r' found found').mustStop, (ahead h r r' found found').mail⟩⟩

theorem alike_hush (orderly : s.Orderly) (unawaited : ¬ s.Awaits) : Alike s s.hush := by
  refine ⟨⟨_, _, _, _, _, _, _, rfl⟩, ?_, by simp [Scene.hush], ?_⟩
  · apply Array.ext_getElem?
    intro i
    simp only [Scene.hush, Array.getElem?_map, Array.getElem?_mapIdx, Option.map_map]
    cases stands : s.errands[i]? with
    | none => rfl
    | some e =>
      simp only [Option.map_some, Function.comp, Option.some.injEq]
      by_cases waits : e = .sent none
      · subst waits
        have unforeseen : s.foresees i = none := by
          by_contra foreseen
          exact unawaited ⟨i, stands, foreseen⟩
        rw [Scene.foreseen, unforeseen]
        rfl
      · rw [Scene.foreseen_of_ne waits, Errand.heard_heard]
  · intro h r r' found found'
    simp only [Scene.hush, Array.getElem?_map, found, Option.map_some, Option.some.injEq] at found'
    subst found'
    refine ⟨rfl, r.mail, by simp [Resident.afterReading], rfl, ?_⟩
    intro l mem current
    obtain ⟨e, stands, sent⟩ := orderly.posted h r found l mem current
    rw [stands, Option.map_some]
    cases e with
    | delayed time failure => exact absurd rfl (sent time failure)
    | ended outcome => exact ⟨outcome, rfl⟩
    | sent answer =>
      cases answer with
      | some outcome => exact ⟨outcome, rfl⟩
      | none =>
        refine absurd ⟨l.place, stands, ?_⟩ unawaited
        rw [Scene.foresees, Ne, List.findSome?_eq_none_iff]
        intro none
        refine Resident.firstAnswer_ne_none mem ?_
        rw [current]
        exact none r (Array.mem_toList_iff.mpr (Array.mem_of_getElem? found))

theorem not_awaits_of_read
    (read : ∀ (handle : Handle) r, s.world.residents[handle]? = some r → r.mail = []) :
    ¬ s.Awaits := by
  rintro ⟨i, _, foreseen⟩
  obtain ⟨_, answered⟩ := Option.ne_none_iff_exists'.mp foreseen
  obtain ⟨r, mem, here⟩ := List.exists_of_findSome?_eq_some answered
  obtain ⟨h, found⟩ := Array.getElem?_of_mem (Array.mem_toList_iff.mp mem)
  rw [Resident.firstAnswer_of_read (read h r found)] at here
  cases here

end
end FlowRuntime.Rehearsal
