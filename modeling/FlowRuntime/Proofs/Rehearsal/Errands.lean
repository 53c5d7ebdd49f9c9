import FlowRuntime.Proofs.Rehearsal.Residents
import FlowRuntime.Proofs.Rehearsal.Scene
import FlowRuntime.Proofs.Rehearsal.Solo

/-!
Fan-outs in virtual time. Between two calls every scene is in order: mail is of fan-outs
that there have been, and nobody who has stopped has any. While a fan-out is under way,
an errand fares with its resident as it stands itself: nothing has been sent yet, or a
letter waits behind all older mail, or it has been heeded; an errand that was given up
may have come as far as any of these. We verify that beginning, sending, reading and
giving up keep it so, whatever else goes on, and that the report at the end is therefore
true of every resident.
-/
namespace FlowRuntime.Rehearsal

/-! ### Residents and their mail -/

namespace Resident

/-- Whom nobody has shut down. The mail is of fan-outs up to this one, and whoever has stopped has
read it. -/
structure Tidy (round : Nat) (r : Resident) : Prop where
  going : r.mustStop = false
  read : r.self.state = .stopped → r.mail = []
  past : ∀ l ∈ r.mail, l.round ≤ round

structure Untouched (round : Nat) (b r : Resident) : Prop where
  keeps : b.Keeps r
  past : ∀ l ∈ r.mail, l.round < round

/-- A letter has come, and waits to be read after all older mail. -/
structure Posted (l : Letter) (b r : Resident) : Prop where
  going : b.self.state ≠ .stopped
  mail : ∃ older, r.mail = older ++ [l] ∧ (∀ o ∈ older, o.round < l.round) ∧
    (r.self.handleQueue (older.map (·.op))).1 = b.ahead

section
variable {b r : Resident} {round : Nat} {l : Letter}

theorem Tidy.later (tidy : r.Tidy round) {later : Nat} (le : round ≤ later) : r.Tidy later :=
  ⟨tidy.going, tidy.read, fun l mem => Nat.le_trans (tidy.past l mem) le⟩

def afterReading (r : Resident) : Resident := ⟨r.ahead, [], false, r.mustStop⟩

def answers (r : Resident) : List (Letter × Outcome) :=
  r.mail.zip (r.self.handleQueue (r.mail.map (·.op))).2

theorem Tidy.afterReading (tidy : r.Tidy round) : r.afterReading.Tidy round :=
  ⟨tidy.going, fun _ => rfl, by simp [Resident.afterReading]⟩

theorem keeps_afterReading (r : Resident) : r.Keeps r.afterReading where
  ahead := rfl
  read _ := rfl
  stopped := by
    intro stopped
    change r.ahead.state = _
    rw [ahead_of_stopped stopped, stopped]

theorem Untouched.afterReading (untouched : Untouched round b r) :
    Untouched round b r.afterReading :=
  ⟨untouched.keeps.trans (keeps_afterReading r), by simp [Resident.afterReading]⟩

theorem Untouched.misses (untouched : Untouched round b r) (op : InstanceOp) : b.Misses op r :=
  ⟨.inl untouched.keeps.ahead, untouched.keeps.stopped⟩

theorem Posted.ahead_eq (posted : Posted l b r) : r.ahead = (b.ahead.handleQueue [l.op]).1 := by
  obtain ⟨older, mail, _, before⟩ := posted.mail
  rw [ahead, mail, List.map_append, LocalInstance.handleQueue_append, before]
  rfl

theorem Posted.misses (posted : Posted l b r) : b.Misses l.op r where
  ahead := by
    obtain ⟨answer, _, responds⟩ := LocalInstance.responds_handleQueue b.ahead l.op
    rw [posted.ahead_eq]
    exact .inr ⟨answer, responds⟩
  stopped stopped := absurd stopped posted.going

theorem Posted.heeds (posted : Posted l b r) :
    ∃ answers answer,
      r.mail.zip (r.self.handleQueue (r.mail.map (·.op))).2 = answers ++ [(l, answer)] ∧
      (∀ a ∈ answers, a.1.round < l.round) ∧ b.Heeds l.op answer r.afterReading := by
  obtain ⟨older, mail, before, here⟩ := posted.mail
  obtain ⟨answer, answered, responds⟩ := LocalInstance.responds_handleQueue b.ahead l.op
  have count := LocalInstance.length_handleQueue r.self (older.map (·.op))
  rw [List.length_map] at count
  refine ⟨older.zip (r.self.handleQueue (older.map (·.op))).2, answer, ?_, ?_, rfl, ?_⟩
  · rw [mail, List.map_append, LocalInstance.handleQueue_append, here]
    change (older ++ [l]).zip (_ ++ (b.ahead.handleQueue [l.op]).2) = _
    rw [answered, List.zip_append count.symm]
    rfl
  · intro a mem
    exact before a.1 (List.of_mem_zip mem).1
  · change b.ahead.Responds l.op r.ahead answer
    rw [posted.ahead_eq]
    exact responds

end
end Resident

/-! ### Errands under way -/

/-- A scene as calls find it and leave it. If all is to be calm, nothing is planned to go wrong and
nobody is given up at once. -/
structure Fit (calm : Prop) (s : Scene) : Prop where
  tidy : ∀ (handle : Handle) r, s.world.residents[handle]? = some r → r.Tidy s.round
  faultless : calm → s.world.faults = []
  patient : calm → s.limit ≠ some 0

/-- How an errand stands, and its resident with it. -/
def Fares (calm : Prop) (l : Letter) (b : Resident) : Errand → Resident → Prop
  | .delayed _ failure, r => b.Untouched l.round r ∧ (calm → failure = none)
  | .sent none, r => b.Posted l r
  | .sent (some outcome), r => b.Heeds l.op outcome r
  | .ended outcome, r => b.Heeds l.op outcome r ∨
    (¬ calm ∧ (∃ e, outcome = .error e) ∧
      (b.Untouched l.round r ∨ b.Posted l r ∨ ∃ answer, b.Heeds l.op answer r))

section
variable {calm : Prop} {l : Letter} {b r : Resident} {e : Errand}

theorem Fares.misses (fares : Fares calm l b e r) : b.Misses l.op r := by
  cases e with
  | delayed time failure => exact fares.1.misses l.op
  | sent answer =>
    cases answer with
    | none => exact Resident.Posted.misses fares
    | some outcome => exact Resident.Heeds.misses fares
  | ended outcome =>
    rcases fares with heeds | ⟨_, _, untouched | posted | ⟨answer, heeds⟩⟩
    · exact heeds.misses
    · exact untouched.misses l.op
    · exact posted.misses
    · exact heeds.misses

theorem Fares.afterReading (fares : Fares calm l b e r) (past : ∀ o ∈ r.mail, o.round < l.round) :
    Fares calm l b e r.afterReading := by
  have unposted : ¬ b.Posted l r := by
    intro posted
    obtain ⟨older, mail, _⟩ := posted.mail
    exact Nat.lt_irrefl _ (past l (by simp [mail]))
  cases e with
  | delayed time failure => exact ⟨fares.1.afterReading, fares.2⟩
  | sent answer =>
    cases answer with
    | none => exact absurd fares unposted
    | some outcome => exact Resident.Heeds.keeps fares (Resident.keeps_afterReading r)
  | ended outcome =>
    rcases fares with heeds | ⟨restless, failed, untouched | posted | ⟨answer, heeds⟩⟩
    · exact .inl (heeds.keeps (Resident.keeps_afterReading r))
    · exact .inr ⟨restless, failed, .inl untouched.afterReading⟩
    · exact absurd posted unposted
    · exact .inr ⟨restless, failed, .inr (.inr ⟨answer, heeds.keeps (Resident.keeps_afterReading r)⟩)⟩

theorem Fares.posted (fares : Fares calm l b e r) (waiting : ¬ ∀ o ∈ r.mail, o.round < l.round) :
    b.Posted l r ∧ (e = .sent none ∨
      ∃ outcome, e = .ended outcome ∧ ¬ calm ∧ ∃ f, outcome = .error f) := by
  have unread {answer : Outcome} (heeds : b.Heeds l.op answer r) : False :=
    waiting (by simp [heeds.read])
  cases e with
  | delayed time failure => exact absurd fares.1.past waiting
  | sent answer =>
    cases answer with
    | none => exact ⟨fares, .inl rfl⟩
    | some outcome => exact (unread fares).elim
  | ended outcome =>
    rcases fares with heeds | ⟨restless, failed, untouched | posted | ⟨answer, heeds⟩⟩
    · exact (unread heeds).elim
    · exact absurd untouched.past waiting
    · exact ⟨posted, .inr ⟨outcome, rfl, restless, failed⟩⟩
    · exact (unread heeds).elim

end

theorem World.read_eq {w : World} {handle : Handle} {r : Resident}
    (found : w.residents[handle]? = some r) (going : r.mustStop = false) :
    w.read handle =
      ({ w with residents := w.residents.setIfInBounds handle r.afterReading }, r.answers) := by
  simp [World.read, found, going, Resident.afterReading, Resident.ahead, Resident.answers]

theorem residentReads_nobody {s : Scene} {handle : Handle}
    (nobody : s.world.residents[handle]? = none) : s.residentReads handle = s := by
  simp [Scene.residentReads, World.read, nobody]

theorem residentReads_foldl {s : Scene} {handle : Handle} {r : Resident}
    (found : s.world.residents[handle]? = some r) (going : r.mustStop = false) :
    s.residentReads handle = r.answers.foldl (fun s a => s.noteAnswer a.1 a.2)
      { s with world.residents := s.world.residents.setIfInBounds handle r.afterReading } := by
  rw [Scene.residentReads, World.read_eq found going]

/-- A fan-out has come so far that as many of its errands have been begun as there are. -/
structure InFlight (calm : Prop) (w : World) (op : InstanceOp) (targets : List (StageKey × Handle))
    (s : Scene) : Prop where
  fit : Fit calm s
  knows : w.Knows targets
  prompt : calm → s.now = s.since
  size : s.world.residents.size = w.residents.size
  partitioner : s.world.partitioner = w.partitioner
  begun : ∀ (i : Nat) key handle e b r, targets[i]? = some (key, handle) → s.errands[i]? = some e →
    w.residents[handle]? = some b → s.world.residents[handle]? = some r →
    Fares calm ⟨s.round, i, op⟩ b e r
  unbegun : ∀ (handle : Handle) b r,
    (∀ (i : Nat) key, targets[i]? = some (key, handle) → s.errands[i]? = none) →
    w.residents[handle]? = some b → s.world.residents[handle]? = some r → b.Untouched s.round r

/-- Nothing has changed that a call goes by, residents and errands apart. -/
structure Framed (s s' : Scene) : Prop where
  now : s'.now = s.now
  limit : s'.limit = s.limit
  round : s'.round = s.round
  since : s'.since = s.since
  faults : s'.world.faults = s.world.faults
  partitioner : s'.world.partitioner = s.world.partitioner

structure Unread (s s' : Scene) : Prop extends Framed s s' where
  residents : s'.world.residents = s.world.residents

structure Unmoved (s s' : Scene) : Prop extends Unread s s' where
  errands : s'.errands = s.errands

theorem Unread.trans {s s' s'' : Scene} (first : Unread s s') (second : Unread s' s'') :
    Unread s s'' where
  now := second.now.trans first.now
  limit := second.limit.trans first.limit
  round := second.round.trans first.round
  since := second.since.trans first.since
  faults := second.faults.trans first.faults
  partitioner := second.partitioner.trans first.partitioner
  residents := second.residents.trans first.residents

namespace Unmoved
variable {s s' s'' : Scene}

theorem trans (first : Unmoved s s') (second : Unmoved s' s'') : Unmoved s s'' :=
  ⟨first.toUnread.trans second.toUnread, second.errands.trans first.errands⟩

theorem ofReordered (reordered : Reordered s s') : Unmoved s s' := by
  obtain ⟨_, _, _, _, _, _, _, rfl⟩ := reordered
  exact ⟨⟨⟨rfl, rfl, rfl, rfl, rfl, rfl⟩, rfl⟩, rfl⟩

theorem see (s : Scene) (run : Run) : Unmoved s (s.see run) := by
  apply Scene.see_induction (P := Unmoved s)
  · exact ⟨⟨⟨rfl, rfl, rfl, rfl, rfl, rfl⟩, rfl⟩, rfl⟩
  · intro s' t unmoved
    exact unmoved.trans ⟨⟨⟨rfl, rfl, rfl, rfl, rfl, rfl⟩, rfl⟩, rfl⟩
  · intro s' players unmoved
    exact unmoved.trans (.ofReordered (.wakeAll s' players))

theorem listenerWorks (s : Scene) (i : Nat) : Unmoved s (s.listenerWorks i) := by
  have worked : Unmoved s { s with audience := s.audience.work s.now i } :=
    ⟨⟨⟨rfl, rfl, rfl, rfl, rfl, rfl⟩, rfl⟩, rfl⟩
  exact worked.trans (.ofReordered (.listenerWorks s i))

end Unmoved
theorem modify_eq_set {α : Type} {xs : Array α} {i : Nat} {x : α} (found : xs[i]? = some x)
    (f : α → α) : xs.modify i f = xs.setIfInBounds i (f x) := by
  apply Array.ext_getElem?
  intro j
  grind

namespace InFlight
variable {calm : Prop} {w : World} {op : InstanceOp} {targets : List (StageKey × Handle)}
  {s s' : Scene}

theorem exists_resident (flight : InFlight calm w op targets s) {handle : Handle} {b : Resident}
    (known : w.residents[handle]? = some b) : ∃ r, s.world.residents[handle]? = some r := by
  obtain ⟨within, _⟩ := Array.getElem?_eq_some_iff.mp known
  exact ⟨_, Array.getElem?_eq_getElem (flight.size ▸ within)⟩

theorem index_eq (flight : InFlight calm w op targets s) {i j : Nat} {key key' : StageKey}
    {handle : Handle} (here : targets[i]? = some (key, handle))
    (there : targets[j]? = some (key', handle)) : i = j := by
  have within := (List.getElem?_eq_some_iff.mp here).1
  apply (List.getElem?_inj (by simpa using within) flight.knows.apart).mp
  simp [here, there]

theorem moved (flight : InFlight calm w op targets s) (unmoved : Unmoved s s') :
    InFlight calm w op targets s' where
  fit := {
    tidy := by
      rw [unmoved.residents, unmoved.round]
      exact flight.fit.tidy
    faultless := unmoved.faults ▸ flight.fit.faultless
    patient := unmoved.limit ▸ flight.fit.patient }
  knows := flight.knows
  prompt := by
    rw [unmoved.now, unmoved.since]
    exact flight.prompt
  size := unmoved.residents ▸ flight.size
  partitioner := unmoved.partitioner.trans flight.partitioner
  begun := by
    rw [unmoved.residents, unmoved.errands, unmoved.round]
    exact flight.begun
  unbegun := by
    rw [unmoved.residents, unmoved.errands, unmoved.round]
    exact flight.unbegun

/-- As no two targets have the same handle, a change at one resident is the affair of one errand. -/
theorem change (flight : InFlight calm w op targets s) (framed : Framed s s') {handle : Handle}
    {r r' : Resident} (found : s.world.residents[handle]? = some r)
    (residents : s'.world.residents = s.world.residents.setIfInBounds handle r')
    (tidy : r'.Tidy s.round) (size : s'.errands.size = s.errands.size)
    (others : ∀ i : Nat, (∀ key, targets[i]? ≠ some (key, handle)) → s'.errands[i]? = s.errands[i]?)
    (begun : ∀ (i : Nat) key e e' b, targets[i]? = some (key, handle) → s.errands[i]? = some e →
      s'.errands[i]? = some e' → w.residents[handle]? = some b →
      Fares calm ⟨s.round, i, op⟩ b e r → Fares calm ⟨s.round, i, op⟩ b e' r')
    (unbegun : (∀ (i : Nat) key, targets[i]? = some (key, handle) → s.errands[i]? = none) →
      ∀ b : Resident, b.Untouched s.round r → b.Untouched s.round r') :
    InFlight calm w op targets s' := by
  have counted (i : Nat) : s'.errands[i]? = none ↔ s.errands[i]? = none := by
    rw [Array.getElem?_eq_none_iff, Array.getElem?_eq_none_iff, size]
  refine { fit := ⟨?_, ?_, ?_⟩, knows := flight.knows, prompt := ?_, size := ?_, partitioner := ?_,
           begun := ?_, unbegun := ?_ }
  · intro h x here
    rw [residents] at here
    rw [framed.round]
    rcases getElem?_set_cases here with ⟨_, rfl, _⟩ | ⟨_, before⟩
    · exact tidy
    · exact flight.fit.tidy h x before
  · rw [framed.faults]
    exact flight.fit.faultless
  · rw [framed.limit]
    exact flight.fit.patient
  · rw [framed.now, framed.since]
    exact flight.prompt
  · rw [residents, Array.size_setIfInBounds]
    exact flight.size
  · exact framed.partitioner.trans flight.partitioner
  · intro i key h e' b x listed stands known here
    rw [residents] at here
    rw [framed.round]
    rcases getElem?_set_cases here with ⟨rfl, rfl, _⟩ | ⟨other, unchanged⟩
    · cases before : s.errands[i]? with
      | none => simp [(counted i).mpr before] at stands
      | some e =>
        exact begun i key e e' b listed before stands known
          (flight.begun i key h e b r listed before known found)
    · have apart : ∀ key, targets[i]? ≠ some (key, handle) := by
        intro key' listed'
        rw [listed] at listed'
        cases listed'
        exact other rfl
      rw [others i apart] at stands
      exact flight.begun i key h e' b x listed stands known unchanged
  · intro h b x absent known here
    have absent' : ∀ (i : Nat) key, targets[i]? = some (key, h) → s.errands[i]? = none :=
      fun i key listed => (counted i).mp (absent i key listed)
    rw [residents] at here
    rw [framed.round]
    rcases getElem?_set_cases here with ⟨rfl, rfl, _⟩ | ⟨_, unchanged⟩
    · exact unbegun absent' b (flight.unbegun h b r absent' known found)
    · exact flight.unbegun h b x absent' known unchanged

theorem goOn (flight : InFlight calm w op targets s) (framed : Framed s s') {i : Nat}
    {key : StageKey} {handle : Handle} {r r' : Resident} {e e' : Errand}
    (listed : targets[i]? = some (key, handle)) (stands : s.errands[i]? = some e)
    (found : s.world.residents[handle]? = some r)
    (residents : s'.world.residents = s.world.residents.setIfInBounds handle r')
    (errands : s'.errands = s.errands.setIfInBounds i e') (tidy : r'.Tidy s.round)
    (goes : ∀ b, w.residents[handle]? = some b →
      Fares calm ⟨s.round, i, op⟩ b e r → Fares calm ⟨s.round, i, op⟩ b e' r') :
    InFlight calm w op targets s' := by
  refine flight.change framed found residents tidy ?_ ?_ ?_ ?_
  · rw [errands, Array.size_setIfInBounds]
  · intro j apart
    have other : i ≠ j := by
      rintro rfl
      exact apart key listed
    simp [errands, other]
  · intro j key' e₁ e₁' b listed' before after known fares
    obtain rfl := flight.index_eq listed listed'
    rw [stands] at before
    cases before
    have within := (Array.getElem?_eq_some_iff.mp stands).1
    simp only [errands, Array.getElem?_setIfInBounds, if_true, if_pos within,
      Option.some.injEq] at after
    exact after ▸ goes b known fares
  · intro absent
    simp [absent i key listed] at stands

theorem setErrand (flight : InFlight calm w op targets s) {i : Nat} {e' : Errand}
    (goes : ∀ key handle e b r, targets[i]? = some (key, handle) → s.errands[i]? = some e →
      s.world.residents[handle]? = some r →
      Fares calm ⟨s.round, i, op⟩ b e r → Fares calm ⟨s.round, i, op⟩ b e' r) :
    InFlight calm w op targets (s.setErrand i e') where
  fit := ⟨flight.fit.tidy, flight.fit.faultless, flight.fit.patient⟩
  knows := flight.knows
  prompt := flight.prompt
  size := flight.size
  partitioner := flight.partitioner
  begun := by
    intro j key handle e b r listed stands known found
    rcases getElem?_set_cases stands with ⟨rfl, rfl, within⟩ | ⟨_, before⟩
    · have before := Array.getElem?_eq_getElem within
      exact goes key handle _ b r listed before found
        (flight.begun j key handle _ b r listed before known found)
    · exact flight.begun j key handle e b r listed before known found
  unbegun := by
    intro handle b r absent known found
    apply flight.unbegun handle b r _ known found
    intro j key listed
    have none := absent j key listed
    simp only [Scene.setErrand, Array.getElem?_setIfInBounds] at none
    split at none
    · rename_i same
      subst same
      split at none
      · cases none
      · rename_i beyond
        exact Array.getElem?_eq_none (Nat.le_of_not_lt beyond)
    · exact none

theorem send (flight : InFlight calm w op targets s) {i : Nat} {key : StageKey} {handle : Handle}
    (listed : targets[i]? = some (key, handle)) {time : Option Nat} {failure : Option String}
    (due : s.errands[i]? = some (.delayed time failure)) :
    InFlight calm w op targets (s.send i handle op) := by
  unfold Scene.send
  split
  · rename_i outcome refused
    apply flight.setErrand
    intro key' handle' e b r listed' stands found fares
    rw [listed] at listed'
    cases listed'
    rw [due] at stands
    cases stands
    simp only [World.refusal?, found, Option.ite_none_right_eq_some, Option.some.injEq] at refused
    obtain ⟨stopped, rfl⟩ := refused
    refine .inl ⟨(flight.fit.tidy handle r found).read stopped, ?_⟩
    rw [← fares.1.keeps.ahead, Resident.ahead_of_stopped stopped]
    exact LocalInstance.responds_refuse stopped _ _
  · rename_i open_door
    cases found : s.world.residents[handle]? with
    | none => simp [World.refusal?, found] at open_door
    | some r =>
      simp only [World.refusal?, found, reduceCtorEq, ite_eq_right_iff, imp_false] at open_door
      have tidy := flight.fit.tidy handle r found
      have posted : InFlight calm w op targets
          ({ s with world := s.world.post handle ⟨s.round, i, op⟩ }.setErrand i (.sent none)) := by
        refine flight.goOn ⟨rfl, rfl, rfl, rfl, rfl, rfl⟩ listed due found
          (modify_eq_set found fun r =>
            { r with mail := r.mail ++ [⟨s.round, i, op⟩], isCalled := true }) rfl ?_ ?_
        · refine ⟨tidy.going, fun stopped => absurd stopped open_door, ?_⟩
          intro l mem
          rcases List.mem_append.mp mem with older | new
          · exact tidy.past l older
          · exact Nat.le_of_eq (congrArg Letter.round (List.mem_singleton.mp new))
        · intro b known fares
          refine ⟨fun stopped => open_door (fares.1.keeps.stopped stopped), r.mail, rfl, ?_, ?_⟩
          · exact fares.1.past
          · exact fares.1.keeps.ahead
      dsimp only
      split
      · exact posted
      · exact posted.moved (.ofReordered (.wake _ _))

theorem not_late (flight : InFlight calm w op targets s) (up : s.isUp s.givenUpAt = true) :
    ¬ calm := by
  intro still
  have patient := flight.fit.patient still
  have prompt := flight.prompt still
  cases limit : s.limit with
  | none => simp [Scene.isUp, Scene.givenUpAt, limit] at up
  | some l =>
    simp only [Scene.isUp, Scene.givenUpAt, limit, Option.map_some, Option.any_some,
      decide_eq_true_eq, prompt, waitFor, longestWait] at up
    have zero : l = 0 := by omega
    exact patient (by rw [limit, zero])

theorem late (flight : InFlight calm w op targets s) (i : Nat) :
    InFlight calm w op targets (if s.isOut i && s.isUp s.givenUpAt then
      s.setErrand i (.ended (.error (.timedOut (s.limit.getD 0)))) else s) := by
  split
  · rename_i cond
    obtain ⟨out, up⟩ := Bool.and_eq_true_iff.mp cond
    apply flight.setErrand
    intro key handle e b r listed stands found fares
    refine .inr ⟨flight.not_late up, ⟨_, rfl⟩, ?_⟩
    cases e with
    | delayed time failure => exact .inl fares.1
    | sent answer =>
      cases answer with
      | none => exact .inr (.inl fares)
      | some outcome => exact .inr (.inr ⟨outcome, fares⟩)
    | ended outcome => simp [Scene.isOut, stands, Errand.outcome?] at out
  · exact flight

theorem attendErrand (flight : InFlight calm w op targets s) {i : Nat} {key : StageKey}
    {handle : Handle} (listed : targets[i]? = some (key, handle)) :
    InFlight calm w op targets (s.attendErrand op i handle) := by
  unfold Scene.attendErrand
  apply late
  split
  · rename_i time failure due
    split
    · exact flight
    · cases failure with
      | some text =>
        apply flight.setErrand
        intro key' handle' e b r _ stands _ fares
        rw [due] at stands
        cases stands
        refine .inr ⟨?_, ⟨_, rfl⟩, .inl fares.1⟩
        intro still
        cases fares.2 still
      | none => exact flight.send listed due
  · rename_i outcome answered
    apply flight.setErrand
    intro key' handle' e b r _ stands _ fares
    rw [answered] at stands
    cases stands
    exact .inl fares
  · exact flight

theorem attendErrands (flight : InFlight calm w op targets s) :
    InFlight calm w op targets (s.attendErrands op targets) := by
  have listed : ∀ e ∈ targets.zipIdx, targets[e.2]? = some e.1 :=
    fun e mem => List.mem_zipIdx_iff_getElem?.mp mem
  unfold Scene.attendErrands
  generalize targets.zipIdx = items at listed
  induction items generalizing s with
  | nil => exact flight
  | cons head rest ih =>
    obtain ⟨first, others⟩ := List.forall_mem_cons.mp listed
    exact ih (flight.attendErrand first) others

/-! ### Beginning -/

theorem opened (fit : Fit calm s) (keeps : w.Keeps s.world) (knows : s.world.Knows targets) :
    InFlight calm w op targets
      { s with round := s.round + 1, since := s.now, errands := #[] } where
  fit := {
    tidy := fun handle r found => (fit.tidy handle r found).later (Nat.le_succ _)
    faultless := fit.faultless
    patient := fit.patient }
  knows := knows.since keeps
  prompt _ := rfl
  size := keeps.size
  partitioner := keeps.partitioner
  begun := by
    intro i key handle e b r _ stands
    simp at stands
  unbegun := by
    intro handle b r _ known found
    obtain ⟨r', found', kept⟩ := keeps.each handle b known
    rw [found] at found'
    cases found'
    exact ⟨kept, fun l mem => Nat.lt_succ_of_le ((fit.tidy handle r found).past l mem)⟩

theorem push (flight : InFlight calm w op targets s) (time : Option Nat) {failure : Option String}
    (harmless : calm → failure = none) :
    InFlight calm w op targets { s with errands := s.errands.push (.delayed time failure) } where
  fit := ⟨flight.fit.tidy, flight.fit.faultless, flight.fit.patient⟩
  knows := flight.knows
  prompt := flight.prompt
  size := flight.size
  partitioner := flight.partitioner
  begun := by
    intro i key handle e b r listed stands known found
    rcases getElem?_push_cases stands with ⟨last, rfl⟩ | ⟨_, before⟩
    · refine ⟨flight.unbegun handle b r ?_ known found, harmless⟩
      intro j key' listed'
      rw [flight.index_eq listed' listed, last]
      exact Array.getElem?_eq_none (Nat.le_refl _)
    · exact flight.begun i key handle e b r listed before known found
  unbegun := by
    intro handle b r absent known found
    apply flight.unbegun handle b r _ known found
    intro i key listed
    have none := absent i key listed
    rw [Array.getElem?_push] at none
    split at none
    · cases none
    · exact none

theorem meet (flight : InFlight calm w op targets s) (call : LoggedCall) :
    InFlight calm w op targets { s with world := (s.world.meet call).1 } ∧
      (calm → (s.world.meet call).2 = .unharmed) := by
  constructor
  · exact {
      fit := {
        tidy := flight.fit.tidy
        faultless := by
          intro still
          rw [World.meet_faultless (flight.fit.faultless still)]
        patient := flight.fit.patient }
      knows := flight.knows
      prompt := flight.prompt
      size := flight.size
      partitioner := flight.partitioner
      begun := flight.begun
      unbegun := flight.unbegun }
  · intro still
    rw [World.meet_faultless (flight.fit.faultless still)]

theorem startErrand (flight : InFlight calm w op targets s) (place : Nat)
    {target : StageKey × Handle} (next : targets[s.errands.size]? = some target) :
    InFlight calm w op targets (s.startErrand place op target) := by
  obtain ⟨met, unharmed⟩ := flight.meet (.request op target.1)
  have harmless (still : calm) : (s.world.meet (.request op target.1)).2.failure = none := by
    rw [unharmed still]
    rfl
  have begun := met.push ((s.world.meet (.request op target.1)).2.delay.map (s.now + waitFor ·)) harmless
  have attended := begun.attendErrand next
  unfold Scene.startErrand
  dsimp only
  split
  · exact (attended.moved (.ofReordered (.cueAt _ _ place))).moved (.ofReordered (.cueAt _ _ place))
  · exact attended

theorem startErrands (before : List (StageKey × Handle)) {rest : List (StageKey × Handle)}
    (flight : InFlight calm w op (before ++ rest) s) (count : s.errands.size = before.length)
    (place : Nat) :
    InFlight calm w op (before ++ rest)
      (rest.foldl (fun s target => s.startErrand place op target) s) := by
  induction rest generalizing before s with
  | nil => exact flight
  | cons head rest ih =>
    have next : (before ++ head :: rest)[s.errands.size]? = some head := by simp [count]
    have one := flight.startErrand place next
    have size := Made.startErrands_size s place op [head]
    have more : (s.startErrand place op head).errands.size = (before ++ [head]).length := by
      rw [List.length_append, ← count]
      exact size
    have onward := ih (before ++ [head]) (by simpa using one) more
    simpa using onward

/-! ### Reading -/

theorem noteAnswers_past {answers : List (Letter × Outcome)}
    (past : ∀ a ∈ answers, a.1.round ≠ s.round) :
    answers.foldl (fun s a => s.noteAnswer a.1 a.2) s = s := by
  induction answers with
  | nil => rfl
  | cons head rest ih =>
    obtain ⟨first, others⟩ := List.forall_mem_cons.mp past
    rw [List.foldl_cons, Scene.noteAnswer, if_pos first]
    exact ih others

theorem residentReads_past {handle : Handle} {r : Resident}
    (found : s.world.residents[handle]? = some r) (going : r.mustStop = false)
    (past : ∀ l ∈ r.mail, l.round < s.round) :
    s.residentReads handle =
      { s with world.residents := s.world.residents.setIfInBounds handle r.afterReading } := by
  rw [residentReads_foldl found going]
  exact noteAnswers_past fun a mem => Nat.ne_of_lt (past a.1 (List.of_mem_zip mem).1)

theorem read (flight : InFlight calm w op targets s) {handle : Handle} {r b : Resident}
    (found : s.world.residents[handle]? = some r) (known : w.residents[handle]? = some b)
    (still : ∀ (i : Nat) key e, targets[i]? = some (key, handle) → s.errands[i]? = some e →
      Fares calm ⟨s.round, i, op⟩ b e r → Fares calm ⟨s.round, i, op⟩ b e r.afterReading) :
    InFlight calm w op targets
      { s with world.residents := s.world.residents.setIfInBounds handle r.afterReading } := by
  refine flight.change ⟨rfl, rfl, rfl, rfl, rfl, rfl⟩ found rfl
    (flight.fit.tidy handle r found).afterReading rfl (fun _ _ => rfl) ?_
    (fun _ b untouched => untouched.afterReading)
  intro i key e e' b' listed stands stands' known' fares
  rw [stands] at stands'
  cases stands'
  rw [known] at known'
  cases known'
  exact still i key e listed stands fares

theorem answered (flight : InFlight calm w op targets s) {handle : Handle} {r b : Resident} {i : Nat}
    {key : StageKey} {e : Errand} (found : s.world.residents[handle]? = some r)
    (known : w.residents[handle]? = some b) (listed : targets[i]? = some (key, handle))
    (stands : s.errands[i]? = some e) (current : ¬ ∀ l ∈ r.mail, l.round < s.round) :
    InFlight calm w op targets (s.residentReads handle) := by
  have tidy := flight.fit.tidy handle r found
  have fares := flight.begun i key handle e b r listed stands known found
  obtain ⟨posted, expected⟩ := fares.posted current
  obtain ⟨answers, answer, zipped, older, heeds⟩ := posted.heeds
  have unnoticed := noteAnswers_past (s := { s with
    world.residents := s.world.residents.setIfInBounds handle r.afterReading })
    fun a mem => Nat.ne_of_lt (older a mem)
  rw [residentReads_foldl found tidy.going, Resident.answers, zipped, List.foldl_append, unnoticed,
    List.foldl_cons, List.foldl_nil]
  unfold Scene.noteAnswer
  rw [if_neg (not_not_intro rfl)]
  dsimp only
  rw [stands]
  rcases expected with rfl | ⟨outcome, rfl, restless, failed⟩
  · -- The errand has waited for this answer.
    have noted : InFlight calm w op targets (Scene.setErrand
        { s with world.residents := s.world.residents.setIfInBounds handle r.afterReading } i
        (.sent (some answer))) := by
      refine flight.goOn ⟨rfl, rfl, rfl, rfl, rfl, rfl⟩ listed stands found rfl rfl
        tidy.afterReading ?_
      intro b' known' _
      rw [known] at known'
      cases known'
      exact heeds
    exact noted.moved (.ofReordered (.wakeAll _ _))
  · apply flight.read found known
    intro j key' e listed' stands' _
    obtain rfl := flight.index_eq listed listed'
    rw [stands] at stands'
    cases stands'
    exact .inr ⟨restless, failed, .inr (.inr ⟨answer, heeds⟩)⟩

theorem residentReads (flight : InFlight calm w op targets s) (handle : Handle) :
    InFlight calm w op targets (s.residentReads handle) := by
  cases found : s.world.residents[handle]? with
  | none => rwa [residentReads_nobody found]
  | some r =>
    obtain ⟨b, known⟩ : ∃ b, w.residents[handle]? = some b := by
      have within := (Array.getElem?_eq_some_iff.mp found).1
      exact ⟨_, Array.getElem?_eq_getElem (flight.size ▸ within)⟩
    by_cases past : ∀ l ∈ r.mail, l.round < s.round
    · rw [residentReads_past found (flight.fit.tidy handle r found).going past]
      exact flight.read found known fun i key e _ _ fares => fares.afterReading past
    · have addressed : ∃ (i : Nat) (key : StageKey) (e : Errand),
          targets[i]? = some (key, handle) ∧ s.errands[i]? = some e := by
        by_contra none
        simp only [not_exists, not_and] at none
        apply past
        apply (flight.unbegun handle b r _ known found).past
        intro i key listed
        exact Option.eq_none_iff_forall_ne_some.mpr fun e => none i key e listed
      obtain ⟨i, key, e, listed, stands⟩ := addressed
      exact flight.answered found known listed stands past

/-! ### The report -/

theorem ended_of_mapM {errands : List Errand} {outcomes : List Outcome}
    (all : errands.mapM Errand.outcome? = some outcomes) : errands = outcomes.map .ended := by
  induction errands generalizing outcomes with
  | nil =>
    cases all
    rfl
  | cons head rest ih =>
    rw [List.mapM_cons] at all
    simp only [Option.bind_eq_bind, Option.bind_eq_some_iff] at all
    obtain ⟨first, found, others, gathered, same⟩ := all
    cases same
    rw [List.map_cons, ← ih gathered]
    cases head with
    | ended outcome =>
      cases found
      rfl
    | delayed | sent => cases found

/-- What is reported of a fan-out is true of all whom it was for, and nobody else has noticed it. -/
theorem answers (flight : InFlight calm w op targets s) (all : s.errands.size = targets.length)
    {report : Report StageKey} (reported : s.report? targets = some report) :
    w.Answers calm ⟨.fanOut op targets, report⟩ s.world := by
  obtain ⟨outcomes, gathered, rfl⟩ := Option.map_eq_some_iff.mp reported
  have ended := ended_of_mapM gathered
  have count : outcomes.length = targets.length := by
    rw [← all, ← Array.length_toList, ended, List.length_map]
  have stands {i : Nat} {outcome : Outcome} (listed : outcomes[i]? = some outcome) :
      s.errands[i]? = some (.ended outcome) := by
    rw [← Array.getElem?_toList, ended, List.getElem?_map, listed]
    rfl
  refine ⟨flight.knows, flight.size, flight.partitioner, outcomes, count, rfl, ?_⟩
  intro handle b known
  obtain ⟨r, found⟩ := flight.exists_resident known
  refine ⟨r, found, ?_, ?_⟩
  · intro apart
    refine (flight.unbegun handle b r ?_ known found).keeps
    intro i key listed
    exact absurd (List.mem_map_of_mem (List.mem_of_getElem? listed)) apart
  · intro key outcome mem
    obtain ⟨i, listed⟩ := List.getElem?_of_mem mem
    obtain ⟨target, reported⟩ := List.getElem?_zip_eq_some.mp listed
    have fares := flight.begun i key handle _ b r target (stands reported) known found
    have misses := fares.misses
    rcases fares with heeds | ⟨restless, failed, _⟩
    · exact .inl heeds
    · exact .inr ⟨restless, failed, misses⟩

end InFlight
end FlowRuntime.Rehearsal
