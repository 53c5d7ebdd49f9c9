import Mathlib.Data.List.Nodup
import FlowRuntime.Instance.Office
import FlowRuntime.Proofs.Instance.Local

/-!
Order in an instance's office. Whatever others do and in whatever order, the instance has
been told of more instances than its own number, it is never in error, and it stays
stopped once it has stopped. We verify that each request has one number and one place, in
line, in the queue or among those done with; that what is done in the office comes to an
end, and then all requests are done with; and which of them may have failed.
-/
namespace FlowRuntime

namespace LocalInstance

theorem handle_rejected {i : LocalInstance} (going : i.state ≠ .stopped) (sane : i.state ≠ .error)
    {op : InstanceOp} {e : Failure} (rejected : (i.handle op).2 = .error e) :
    (i.handle op).1 = i ∧
      ∃ n, op = .command n ∧ n ≤ i.key.instanceId ∧ e = .cannotOwn i.key n := by
  obtain ⟨key, state, told⟩ := i
  cases op with
  | suspend => cases state <;> simp_all [handle]
  | resume => cases state <;> simp_all [handle]
  | stop => cases rejected
  | command n =>
    by_cases owns : key.instanceId < n
    · cases state <;> simp_all [handle]
    · have few : n ≤ key.instanceId := Nat.le_of_not_lt owns
      cases state <;> simp [handle, owns] at rejected going sane ⊢ <;> exact ⟨few, rejected.symm⟩

theorem handle_owns {i : LocalInstance} (owns : i.key.instanceId < i.told) (op : InstanceOp) :
    i.key.instanceId < (i.handle op).1.told := by
  unfold handle
  split <;> first | exact owns | (split <;> assumption)

theorem handle_sane {i : LocalInstance} (sane : i.state ≠ .error) (op : InstanceOp) :
    (i.handle op).1.state ≠ .error := by
  unfold handle
  split <;> first | exact sane | (split <;> simp_all) | simp

theorem start_refuses (options : InstanceOptions) :
    start options = .error (.outsideStage options.key options.instances) ↔
      options.instances ≤ options.key.instanceId := by
  by_cases within : options.key.instanceId < options.instances
  · simp [start, within]
  · simp [start, within, Nat.le_of_not_lt within]

end LocalInstance

namespace Office

/-- How a request may have been done with, seen from now. -/
inductive Fair (self : LocalInstance) : Settled → Prop where
  | wavedOff {asked : Asked} (stop : asked.op = .stop) (late : asked.late = true) :
      Fair self ⟨asked, .wavedOff, .ok ()⟩
  | handled {asked : Asked} {before : LocalInstance} (here : before.key = self.key)
      (going : before.state ≠ .stopped) (sane : before.state ≠ .error)
      (early : asked.late = false) :
      Fair self ⟨asked, .handled before (before.handle asked.op).1, (before.handle asked.op).2⟩
  | dropped {asked : Asked} (stopped : self.state = .stopped)
      (other : asked.late = true → asked.op ≠ .stop) : Fair self (drop asked)
  | turnedAway {asked : Asked} (stopped : self.state = .stopped)
      (other : asked.late = true → asked.op ≠ .stop) :
      Fair self ⟨asked, .turnedAway, .error (.within (.sending asked.op self.key) .instanceGone)⟩

theorem Fair.later {self self' : LocalInstance} {s : Settled} (fair : Fair self s)
    (same : self'.key = self.key) (stays : self.state = .stopped → self'.state = .stopped) :
    Fair self' s := by
  cases fair with
  | wavedOff stop late => exact .wavedOff stop late
  | handled here going sane early => exact .handled (here.trans same.symm) going sane early
  | dropped stopped other => exact .dropped (stays stopped) other
  | turnedAway stopped other =>
    rw [← same]
    exact .turnedAway (stays stopped) other

def requests (o : Office) : List Asked :=
  (o.settled ++ o.joining).map (·.asked) ++ (o.queue ++ o.line)

structure Sound (i : LocalInstance) (o : Office) : Prop where
  key : o.self.key = i.key
  owns : o.self.key.instanceId < o.self.told
  sane : o.self.state ≠ .error
  present : o.presence = .working ↔ o.self.state ≠ .stopped
  placed : o.requests.Perm o.issued
  numbered : o.issued.map (·.number) = List.range o.issued.length
  pending : ∀ a ∈ o.queue ++ o.line, a.late = true → a.op ≠ .stop ∧ o.self.state = .stopped
  joins : o.presence ≠ .leaving → o.joining = []
  left : o.presence = .gone → o.queue = []
  hasty : ∀ s ∈ o.joining, s.asked.late = false
  fair : ∀ s ∈ o.settled ++ o.joining, Fair o.self s

theorem sound_opened {i : LocalInstance} (alive : i.state = .alive)
    (owns : i.key.instanceId < i.told) : Sound i (opened i) where
  key := rfl
  owns := owns
  sane := by simp [opened, alive]
  present := by simp [opened, alive]
  placed := .refl _
  numbered := rfl
  pending a mem := absurd mem List.not_mem_nil
  joins := fun _ => rfl
  left := fun _ => rfl
  hasty s mem := absurd mem List.not_mem_nil
  fair s mem := absurd mem List.not_mem_nil

section
variable {i : LocalInstance} {o o' : Office}

theorem Comes.placed (comes : Comes o o') (placed : o.requests.Perm o.issued) :
    o'.requests.Perm o'.issued := by
  apply List.perm_iff_count.mpr
  intro asked
  have count := placed.count_eq asked
  cases comes with
  | asks op heard =>
    simp only [requests, List.map_append, List.count_append] at count ⊢
    omega
  | wavedOff stopped =>
    simp only [requests, List.map_append, List.count_append, List.map_cons, List.map_nil]
      at count ⊢
    omega
  | signals works => exact count

theorem Comes.numbered (comes : Comes o o')
    (numbered : o.issued.map (·.number) = List.range o.issued.length) :
    o'.issued.map (·.number) = List.range o'.issued.length := by
  cases comes with
  | asks op heard => simp [numbered, List.range_succ, ask]
  | wavedOff stopped => simp [numbered, List.range_succ, ask]
  | signals works => exact numbered

theorem Works.issued (works : Works o o') : o'.issued = o.issued := by
  cases works <;> rfl

theorem Works.placed (works : Works o o') (placed : o.requests.Perm o.issued) :
    o'.requests.Perm o'.issued := by
  rw [works.issued]
  apply List.perm_iff_count.mpr
  intro asked
  have count := placed.count_eq asked
  cases works with
  | admits before line present room =>
    simp only [requests, line, List.count_append, List.count_cons, List.count_nil] at count ⊢
    omega
  | handles queue works goesOn =>
    simp only [requests, queue, attend, List.map_append, List.count_append, List.map_cons,
      List.map_nil, List.count_cons, List.count_nil] at count ⊢
    omega
  | stops queue works stops =>
    simp only [requests, queue, attend, List.map_append, List.count_append, List.map_cons,
      List.map_nil, List.count_cons, List.count_nil] at count ⊢
    omega
  | leaves stopped =>
    simp only [requests, drop, List.map_append, List.count_append, List.map_map,
      Function.comp_def, List.map_id', List.map_nil, List.count_nil] at count ⊢
    omega
  | turnsAway before line gone =>
    simp only [requests, line, turnAway, List.map_append, List.count_append, List.map_cons,
      List.map_nil, List.count_cons, List.count_nil] at count ⊢
    omega

theorem Step.self_of_stopped (step : Step o o') (present : o.presence = .working ↔ o.self.state ≠ .stopped)
    (stopped : o.self.state = .stopped) : o'.self = o.self := by
  have away : o.presence ≠ .working := fun works => present.mp works stopped
  cases step with
  | comes comes =>
    cases comes with
    | asks op heard => rfl
    | wavedOff stopped => rfl
    | signals works => exact absurd works away
  | works works =>
    cases works with
    | admits before line present room => rfl
    | handles queue works goesOn => exact absurd works away
    | stops queue works stops => exact absurd works away
    | leaves leaving => rfl
    | turnsAway before line gone => rfl

theorem Sound.comes (sound : Sound i o) (comes : Comes o o') : Sound i o' := by
  have placed := comes.placed sound.placed
  have numbered := comes.numbered sound.numbered
  cases comes with
  | asks op heard =>
    refine ⟨sound.key, sound.owns, sound.sane, sound.present, placed, numbered, ?_, sound.joins, sound.left,
      sound.hasty, sound.fair⟩
    intro a mem late
    rw [← List.append_assoc] at mem
    rcases List.mem_append.mp mem with before | here
    · exact sound.pending a before late
    · rw [List.mem_singleton.mp here] at late ⊢
      have stopped : o.self.state = .stopped := of_decide_eq_true late
      exact ⟨heard.resolve_right fun going => going stopped, stopped⟩
  | wavedOff stopped =>
    refine ⟨sound.key, sound.owns, sound.sane, sound.present, placed, numbered, sound.pending, sound.joins,
      sound.left, sound.hasty, ?_⟩
    intro s mem
    rw [List.append_assoc] at mem
    rcases List.mem_append.mp mem with before | later
    · exact sound.fair s (List.mem_append_left _ before)
    · rcases List.mem_cons.mp later with rfl | joining
      · exact .wavedOff rfl (decide_eq_true stopped)
      · exact sound.fair s (List.mem_append_right _ joining)
  | signals works =>
    have going := sound.present.mp works
    refine ⟨sound.key, sound.owns, nofun, ?_, placed, numbered, ?_, nofun, nofun, sound.hasty, ?_⟩
    · simp [LocalInstance.shutDown]
    · intro a mem late
      exact ⟨(sound.pending a mem late).1, rfl⟩
    · intro s mem
      exact (sound.fair s mem).later rfl fun _ => rfl

theorem Sound.stopped (sound : Sound i o) (away : o.presence ≠ .working) :
    o.self.state = .stopped := by
  by_contra going
  exact away (sound.present.mpr going)

theorem Sound.early (sound : Sound i o) (works : o.presence = .working) {asked : Asked}
    (waits : asked ∈ o.queue ++ o.line) : asked.late = false := by
  by_contra late
  have stopped := (sound.pending asked waits (by simpa using late)).2
  exact sound.present.mp works stopped

theorem Sound.attended (sound : Sound i o) (works : o.presence = .working) {asked : Asked}
    (waits : asked ∈ o.queue ++ o.line) :
    Fair (o.self.handle asked.op).1 (o.attend asked) :=
  .handled (LocalInstance.handle_key o.self asked.op).symm (sound.present.mp works) sound.sane
    (sound.early works waits)

theorem Works.waits (works : Works o o') {asked : Asked} (mem : asked ∈ o'.queue ++ o'.line) :
    asked ∈ o.queue ++ o.line := by
  cases works with
  | admits before line present room =>
    simp only [line, List.mem_append, List.mem_cons, List.not_mem_nil, or_false] at mem ⊢
    tauto
  | handles queue works goesOn | stops queue works stops =>
    rw [queue]
    exact List.mem_cons_of_mem _ mem
  | leaves leaving => exact List.mem_append_right _ mem
  | turnsAway before line gone =>
    simp only [line, List.mem_append, List.mem_cons] at mem ⊢
    tauto

theorem Works.self (works : Works o o') :
    o'.self = o.self ∨ ∃ op, o'.self = (o.self.handle op).1 := by
  cases works with
  | admits | leaves | turnsAway => exact .inl rfl
  | handles | stops => exact .inr ⟨_, rfl⟩

theorem Sound.self_works (sound : Sound i o) (works : Works o o') :
    o'.self.key = i.key ∧ o'.self.key.instanceId < o'.self.told ∧ o'.self.state ≠ .error := by
  rcases works.self with same | ⟨op, same⟩
  · rw [same]
    exact ⟨sound.key, sound.owns, sound.sane⟩
  · rw [same, LocalInstance.handle_key]
    exact ⟨sound.key, LocalInstance.handle_owns sound.owns op,
      LocalInstance.handle_sane sound.sane op⟩

theorem Sound.pending_works (sound : Sound i o) (works : Works o o') :
    ∀ a ∈ o'.queue ++ o'.line, a.late = true → a.op ≠ .stop ∧ o'.self.state = .stopped := by
  intro a mem late
  obtain ⟨other, stopped⟩ := sound.pending a (works.waits mem) late
  rw [(Step.works works).self_of_stopped sound.present stopped]
  exact ⟨other, stopped⟩

theorem Sound.fair_still (sound : Sound i o) (works : Works o o') :
    ∀ s ∈ o.settled ++ o.joining, Fair o'.self s := by
  intro s mem
  apply (sound.fair s mem).later ((sound.self_works works).1.trans sound.key.symm)
  intro stopped
  rw [(Step.works works).self_of_stopped sound.present stopped]
  exact stopped

theorem Sound.fair_works (sound : Sound i o) (works : Works o o') :
    ∀ s ∈ o'.settled ++ o'.joining, Fair o'.self s := by
  have still := sound.fair_still works
  intro s mem
  cases works with
  | admits => exact still s mem
  | @handles asked rest queue works goesOn =>
    simp only [List.mem_append, List.mem_singleton] at mem
    rcases mem with (before | rfl) | joining
    · exact still s (List.mem_append_left _ before)
    · exact sound.attended works (by simp [queue])
    · exact still s (List.mem_append_right _ joining)
  | @stops asked rest queue works stops =>
    rw [← List.append_assoc] at mem
    rcases List.mem_append.mp mem with before | here
    · exact still s before
    · rw [List.mem_singleton.mp here]
      exact sound.attended works (by simp [queue])
  | leaves leaving =>
    simp only [List.append_nil] at mem
    rcases List.mem_append.mp mem with before | dropped
    · exact still s before
    · obtain ⟨asked, queued, rfl⟩ := List.mem_map.mp dropped
      exact .dropped (sound.stopped (by simp [leaving])) fun late =>
        (sound.pending asked (List.mem_append_left _ queued) late).1
  | @turnsAway before after asked line gone =>
    simp only [List.mem_append, List.mem_singleton] at mem
    rcases mem with (before | rfl) | joining
    · exact still s (List.mem_append_left _ before)
    · exact .turnedAway (sound.stopped (by simp [gone])) fun late =>
        (sound.pending asked (by simp [line]) late).1
    · exact still s (List.mem_append_right _ joining)

theorem Sound.works (sound : Sound i o) (works : Works o o') : Sound i o' := by
  obtain ⟨key, owns, sane⟩ := sound.self_works works
  have placed := works.placed sound.placed
  have numbered : o'.issued.map (·.number) = List.range o'.issued.length := by
    rw [works.issued]
    exact sound.numbered
  have pending := sound.pending_works works
  have fair := sound.fair_works works
  cases works with
  | admits before line present room =>
    exact ⟨key, owns, sane, sound.present, placed, numbered, pending, sound.joins,
      fun gone => absurd gone present, sound.hasty, fair⟩
  | handles queue works goesOn =>
    refine ⟨key, owns, sane, ⟨fun _ => goesOn, fun _ => works⟩, placed, numbered, pending,
      sound.joins, ?_, sound.hasty, fair⟩
    intro gone
    rw [works] at gone
    cases gone
  | stops queue works stops =>
    refine ⟨key, owns, sane, ⟨nofun, fun going => absurd stops going⟩, placed, numbered, pending,
      fun stays => absurd rfl stays, (fun gone => by cases gone), ?_, fair⟩
    intro s mem
    rcases List.mem_append.mp mem with before | here
    · exact sound.hasty s before
    · rw [List.mem_singleton.mp here]
      exact sound.early works (by simp [queue, attend])
  | leaves leaving =>
    have stopped := sound.stopped (by simp [leaving])
    exact ⟨key, owns, sane, ⟨nofun, fun going => absurd stopped going⟩, placed, numbered, pending,
      fun _ => rfl, fun _ => rfl, fun s mem => absurd mem List.not_mem_nil, fair⟩
  | turnsAway before line gone =>
    exact ⟨key, owns, sane, sound.present, placed, numbered, pending, sound.joins, sound.left,
      sound.hasty, fair⟩

theorem Becomes.trans {mid : Office} (before : Becomes o mid) (after : Becomes mid o') :
    Becomes o o' := by
  induction after with
  | here => exact before
  | step _ next ih => exact .step ih next

theorem Sound.becomes (sound : Sound i o) (becomes : Becomes o o') : Sound i o' := by
  induction becomes with
  | here => exact sound
  | step before next ih =>
    cases next with
    | comes comes => exact ih.comes comes
    | works works => exact ih.works works

theorem Sound.self_of_stopped (sound : Sound i o) (becomes : Becomes o o')
    (stopped : o.self.state = .stopped) : o'.self = o.self := by
  induction becomes with
  | here => rfl
  | step before next ih =>
    rw [← ih]
    apply next.self_of_stopped (sound.becomes before).present
    rwa [ih]

/-! ## Rest -/

/-- How much there is left to do at most. -/
def weight (o : Office) : Nat :=
  2 * o.line.length + o.queue.length + if o.presence = .gone then 0 else 1

theorem Works.weight_lt (works : Works o o') : o'.weight < o.weight := by
  cases works with
  | admits before line present room =>
    simp only [weight, line, if_neg present, List.length_append, List.length_cons, List.length_nil]
    omega
  | handles queue works goesOn =>
    simp only [weight, queue, List.length_cons]
    omega
  | stops queue works stops =>
    have there : o.presence ≠ .gone := by simp [works]
    simp only [weight, queue, if_neg there, reduceCtorEq, ↓reduceIte, List.length_cons]
    omega
  | leaves leaving =>
    have there : o.presence ≠ .gone := by simp [leaving]
    simp only [weight, if_neg there, ↓reduceIte, List.length_nil]
    omega
  | turnsAway before line gone =>
    simp only [weight, line, List.length_append, List.length_cons]
    omega

def Resting (o : Office) : Prop := ∀ o', ¬ Works o o'

theorem Sound.at_rest (sound : Sound i o) (resting : o.Resting) :
    o.joining = [] ∧ o.queue = [] ∧ o.line = [] := by
  cases presence : o.presence with
  | working =>
    have queue : o.queue = [] := by
      cases queue : o.queue with
      | nil => rfl
      | cons asked rest =>
        by_cases stops : (o.self.handle asked.op).1.state = .stopped
        · exact absurd (.stops o queue presence stops) (resting _)
        · exact absurd (.handles o queue presence stops) (resting _)
    refine ⟨sound.joins (by simp [presence]), queue, ?_⟩
    cases line : o.line with
    | nil => rfl
    | cons asked rest =>
      have room : o.queue.length < LocalInstance.queueCapacity := by
        rw [queue]
        decide
      exact absurd (.admits o [] line (by simp [presence]) room) (resting _)
  | leaving => exact absurd (.leaves o presence) (resting _)
  | gone =>
    refine ⟨sound.joins (by simp [presence]), sound.left presence, ?_⟩
    cases line : o.line with
    | nil => rfl
    | cons asked rest => exact absurd (.turnsAway o [] line presence) (resting _)

theorem exists_rest (o : Office) : ∃ o', Becomes o o' ∧ o'.issued = o.issued ∧ o'.Resting := by
  induction measure : o.weight using Nat.strongRecOn generalizing o with
  | ind n ih =>
    by_cases resting : o.Resting
    · exact ⟨o, .here, rfl, resting⟩
    · obtain ⟨next, works⟩ : ∃ next, Works o next := by simpa [Resting] using resting
      obtain ⟨last, becomes, issued, rest⟩ := ih next.weight (measure ▸ works.weight_lt) next rfl
      exact ⟨last, .trans (.step .here (.works works)) becomes, issued.trans works.issued, rest⟩

theorem Step.settled (step : Step o o') : o.settled <+: o'.settled := by
  cases step with
  | comes comes =>
    cases comes with
    | asks op heard => exact List.prefix_refl _
    | wavedOff stopped => exact List.prefix_append _ _
    | signals works => exact List.prefix_refl _
  | works works =>
    cases works with
    | admits before line present room => exact List.prefix_refl _
    | handles queue works goesOn => exact List.prefix_append _ _
    | stops queue works stops => exact List.prefix_refl _
    | leaves leaving =>
      rw [List.append_assoc]
      exact List.prefix_append _ _
    | turnsAway before line gone => exact List.prefix_append _ _

theorem Becomes.settled (becomes : Becomes o o') : o.settled <+: o'.settled := by
  induction becomes with
  | here => exact List.prefix_refl _
  | step _ next ih => exact ih.trans next.settled

theorem Sound.nodup (sound : Sound i o) : o.requests.Nodup := by
  apply sound.placed.nodup_iff.mpr
  apply List.Nodup.of_map (·.number)
  rw [sound.numbered]
  exact List.nodup_range

/-- What is known of an office at any time, if it was opened for this instance. -/
structure Orderly (i : LocalInstance) (o : Office) : Prop where
  told : o.self.key = i.key ∧ i.key.instanceId < o.self.told
  state : o.self.state = .alive ∨ o.self.state = .suspended ∨ o.self.state = .stopped
  absorbing : o.self.state = .stopped → ∀ o', Becomes o o' → o'.self = o.self
  atMostOnce : (o.settled.map (·.asked)).Nodup
  forGood : ∀ o', Becomes o o' → o.settled <+: o'.settled
  ends : ∀ o', Works o o' → o'.weight < o.weight
  rests : ∃ o', Becomes o o' ∧ o'.issued = o.issued ∧ o'.Resting
  answered : o.Resting → (o.settled.map (·.asked)).Perm o.issued
  handled : ∀ s ∈ o.settled, ∀ before after, s.treatment = .handled before after →
    before.key = i.key ∧ (after, s.answer) = before.handle s.asked.op ∧
    ∀ e, s.answer = .error e → after = before ∧
      ∃ n, s.asked.op = .command n ∧ n ≤ i.key.instanceId ∧ e = .cannotOwn i.key n
  failed : ∀ s ∈ o.settled, ∀ e, s.answer = .error e →
    (∃ before after, s.treatment = .handled before after) ∨
    o.self.state = .stopped ∧ (s.asked.late = false ∨ s.asked.op ≠ .stop) ∧
      (s.treatment = .dropped ∧ e = .instanceGone ∨
        s.treatment = .turnedAway ∧ e = .within (.sending s.asked.op i.key) .instanceGone)
  granted : ∀ asked ∈ o.issued, asked.late = true → asked.op = .stop →
    ∃ s ∈ o.settled, s.asked = asked ∧ s.answer = .ok ()

theorem excused {asked : Asked} (other : asked.late = true → asked.op ≠ .stop) :
    asked.late = false ∨ asked.op ≠ .stop := by
  cases late : asked.late with
  | false => exact .inl rfl
  | true => exact .inr (other late)

theorem Sound.orderly (sound : Sound i o) : Orderly i o where
  told := ⟨sound.key, sound.key ▸ sound.owns⟩
  state := by
    have sane := sound.sane
    cases state : o.self.state <;> simp_all
  absorbing := fun stopped o' becomes => sound.self_of_stopped becomes stopped
  atMostOnce := by
    have all := sound.nodup
    rw [requests, List.map_append, List.append_assoc] at all
    exact (List.nodup_append.mp all).1
  forGood := fun o' becomes => becomes.settled
  ends := fun o' works => works.weight_lt
  rests := exists_rest o
  answered := by
    intro resting
    obtain ⟨joining, queue, line⟩ := sound.at_rest resting
    simpa [requests, joining, queue, line] using sound.placed
  handled := by
    intro s mem before after treated
    cases sound.fair s (List.mem_append_left _ mem) with
    | handled here going sane early =>
      cases treated
      refine ⟨here.trans sound.key, rfl, ?_⟩
      intro e rejected
      obtain ⟨same, n, command, few, cause⟩ := LocalInstance.handle_rejected going sane rejected
      rw [here, sound.key] at few cause
      exact ⟨same, n, command, few, cause⟩
    | wavedOff | dropped | turnedAway => cases treated
  failed := by
    intro s mem e failed
    cases sound.fair s (List.mem_append_left _ mem) with
    | wavedOff stop late => cases failed
    | handled here going sane early => exact .inl ⟨_, _, rfl⟩
    | dropped stopped other =>
      cases failed
      exact .inr ⟨stopped, excused other, .inl ⟨rfl, rfl⟩⟩
    | turnedAway stopped other =>
      cases failed
      exact .inr ⟨stopped, excused other, .inr ⟨rfl, by rw [sound.key]⟩⟩
  granted := by
    intro asked issued late stop
    rcases List.mem_append.mp (sound.placed.mem_iff.mpr issued) with done | waits
    · obtain ⟨s, mem, rfl⟩ := List.mem_map.mp done
      rcases List.mem_append.mp mem with settled | joining
      · cases sound.fair s mem with
        | wavedOff _ _ => exact ⟨_, settled, rfl, rfl⟩
        | handled _ _ _ early => cases early.symm.trans late
        | dropped _ other => exact absurd stop (other late)
        | turnedAway _ other => exact absurd stop (other late)
      · cases (sound.hasty s joining).symm.trans late
    · exact absurd stop (sound.pending asked waits late).1

end

/-! ## Requests issued together -/

def issuedFrom (n : Nat) : List InstanceOp → List Asked
  | [] => []
  | op :: rest => ⟨n, op, false⟩ :: issuedFrom (n + 1) rest

theorem becomes_asked (o : Office) (going : o.self.state ≠ .stopped) (ops : List InstanceOp) :
    Becomes o { o with
      issued := o.issued ++ issuedFrom o.issued.length ops
      line := o.line ++ issuedFrom o.issued.length ops } := by
  induction ops generalizing o with
  | nil => simpa [issuedFrom] using Becomes.here
  | cons op rest ih =>
    have first := Comes.asks o op (.inr going)
    have early : o.ask op = ⟨o.issued.length, op, false⟩ := by simp [ask, going]
    have later := ih { o with issued := o.issued ++ [o.ask op], line := o.line ++ [o.ask op] } going
    rw [early] at first later
    simpa [issuedFrom] using Becomes.trans (.step .here (.comes first)) later

theorem becomes_admitted {o : Office} {line : List Asked} (lined : o.line = line)
    (present : o.presence ≠ .gone)
    (room : o.queue.length + line.length ≤ LocalInstance.queueCapacity) :
    Becomes o { o with line := [], queue := o.queue ++ line } := by
  induction line generalizing o with
  | nil =>
    rw [List.append_nil, ← lined]
    exact .here
  | cons asked rest ih =>
    rw [List.length_cons] at room
    have admitted := Works.admits o [] lined present (by omega)
    have room' : (o.queue ++ [asked]).length + rest.length ≤ LocalInstance.queueCapacity := by
      rw [List.length_append, List.length_singleton]
      omega
    have later := ih (o := { o with line := rest, queue := o.queue ++ [asked] }) rfl present room'
    simp only [List.append_assoc] at later
    exact .trans (.step .here (.works admitted)) later

/-- Taken one after the other, requests are answered as a queue of them is. -/
theorem becomes_handled {o : Office} {queue : List Asked} (queued : o.queue = queue)
    (works : o.presence = .working) (going : o.self.state ≠ .stopped) (joining : o.joining = []) :
    ∃ o', Becomes o o' ∧ o'.issued = o.issued ∧
      o'.self = (o.self.handleQueue (queue.map (·.op))).1 ∧
      o'.settled.map (·.answer) =
        o.settled.map (·.answer) ++ (o.self.handleQueue (queue.map (·.op))).2 := by
  induction queue generalizing o with
  | nil => exact ⟨o, .here, rfl, rfl, by simp [LocalInstance.handleQueue]⟩
  | cons asked rest ih =>
    rw [List.map_cons, LocalInstance.handleQueue_cons going]
    by_cases stops : (o.self.handle asked.op).1.state = .stopped
    · have stopped := Works.stops o queued works stops
      refine ⟨_, .step (.step .here (.works stopped)) (.works (.leaves _ rfl)), rfl, ?_, ?_⟩
      · rw [LocalInstance.handleQueue_stopped stops]
      · rw [LocalInstance.handleQueue_stopped stops, joining]
        simp [attend, drop, Function.comp_def]
    · have handled := Works.handles o queued works stops
      obtain ⟨last, becomes, issued, self, answers⟩ := ih (o := { o with
        self := (o.self.handle asked.op).1, queue := rest,
        settled := o.settled ++ [o.attend asked] }) rfl works stops joining
      refine ⟨last, .trans (.step .here (.works handled)) becomes, issued, self, ?_⟩
      rw [answers]
      simp [attend]

theorem issuedFrom_ops (n : Nat) (ops : List InstanceOp) : (issuedFrom n ops).map (·.op) = ops := by
  induction ops generalizing n with
  | nil => rfl
  | cons op rest ih => rw [issuedFrom, List.map_cons, ih]

theorem issuedFrom_length (n : Nat) (ops : List InstanceOp) :
    (issuedFrom n ops).length = ops.length := by
  rw [← List.length_map (·.op), issuedFrom_ops]

theorem becomes_requests {i : LocalInstance} (going : i.state ≠ .stopped) {ops : List InstanceOp}
    (room : ops.length ≤ LocalInstance.queueCapacity) :
    ∃ o, Becomes (opened i) o ∧ o.issued.map (·.op) = ops ∧ o.self = (i.requests ops).1 ∧
      o.settled.map (·.answer) = (i.requests ops).2 := by
  have asked := becomes_asked (opened i) going ops
  have admitted := becomes_admitted (o := { opened i with
    issued := issuedFrom 0 ops, line := issuedFrom 0 ops }) rfl nofun
    (by rw [issuedFrom_length]; simpa [opened] using room)
  obtain ⟨o, handled, issued, self, answers⟩ := becomes_handled (o := { opened i with
    issued := issuedFrom 0 ops, queue := issuedFrom 0 ops }) rfl rfl going rfl
  rw [issuedFrom_ops] at self answers
  rw [LocalInstance.requests, if_neg going]
  refine ⟨o, .trans (.trans asked admitted) handled, ?_, self, answers⟩
  rw [issued]
  exact issuedFrom_ops 0 ops

/-! ## Order -/

/-- Who may be started, and what is known from then on. -/
structure Keeps (options : InstanceOptions) : Prop where
  refuses : LocalInstance.start options = .error (.outsideStage options.key options.instances) ↔
    options.instances ≤ options.key.instanceId
  starts : LocalInstance.start options = .ok ⟨options.key, .alive, options.instances⟩ ↔
    options.key.instanceId < options.instances
  orderly : ∀ i, LocalInstance.start options = .ok i → ∀ o, Becomes (opened i) o → Orderly i o

/-- Order is kept in the office of any instance, whatever is asked of it and whenever it is to
shut down. -/
theorem order_kept (options : InstanceOptions) : Keeps options where
  refuses := LocalInstance.start_refuses options
  starts := by
    by_cases within : options.key.instanceId < options.instances <;>
      simp [LocalInstance.start, within]
  orderly := by
    intro i started o becomes
    have within : options.key.instanceId < options.instances := by
      by_contra beyond
      have refused := (LocalInstance.start_refuses options).mpr (Nat.le_of_not_lt beyond)
      cases started.symm.trans refused
    rw [LocalInstance.eq_of_start started] at becomes ⊢
    exact ((sound_opened rfl within).becomes becomes).orderly

def secondOfTwo : InstanceOptions := { (default : InstanceOptions) with
  key := ⟨"press", 1⟩
  instances := 2 }

def second : LocalInstance := ⟨⟨"press", 1⟩, .alive, 2⟩

/-- It is told of one instance only and is asked to stop and to suspend before it attends to
anything; it is asked to stop again when the line is long, and once more when it has left. -/
theorem second_becomes : ∃ o, Becomes (opened second) o ∧
    o.settled.map (·.answer) = [.error (.cannotOwn ⟨"press", 1⟩ 1), .ok (), .error .instanceGone,
      .error (.within (.sending .stop ⟨"press", 1⟩) .instanceGone), .ok ()] := by
  let told : Asked := ⟨0, .command 1, false⟩
  let halted : Asked := ⟨1, .stop, false⟩
  let paused : Asked := ⟨2, .suspend, false⟩
  let again : Asked := ⟨3, .stop, false⟩
  have asked : Becomes (opened second)
      ⟨second, .working, [told, halted, paused, again], [told, halted, paused, again], [], [], []⟩ :=
    becomes_asked (opened second) nofun [.command 1, .stop, .suspend, .stop]
  have first := asked.step (.works (.admits _ [] rfl nofun (by decide)))
  have both := first.step (.works (.admits _ [] rfl nofun (by decide)))
  have admitted : Becomes (opened second)
      ⟨second, .working, [told, halted, paused, again], [again], [told, halted, paused], [], []⟩ :=
    both.step (.works (.admits _ [] rfl nofun (by decide)))
  have rejected := admitted.step (.works (.handles _ rfl rfl (by decide)))
  have stopped := rejected.step (.works (.stops _ rfl rfl rfl))
  have left := stopped.step (.works (.leaves _ rfl))
  have turned := left.step (.works (.turnsAway _ [] rfl rfl))
  exact ⟨_, turned.step (.comes (.wavedOff _ rfl)), rfl⟩

theorem second_kept : ∃ o, Becomes (opened second) o ∧ Orderly second o := by
  obtain ⟨o, becomes, _⟩ := second_becomes
  exact ⟨o, becomes, (order_kept secondOfTwo).orderly second rfl o becomes⟩

end Office
end FlowRuntime
