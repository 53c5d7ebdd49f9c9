import FlowRuntime.Proofs.Rehearsal.Turn
import FlowRuntime.Proofs.Run.Requests

/-!
Several parts at once. Whoever is seen to, and in whatever order, the run's turn goes from one
part to the next in the order in which they asked for it. We verify that at every moment the
run, the calls and the partitioner are what carrying out one request after the other would
have made of them, up to the one that is under way; that requests are answered as they would
have been then; and that whoever has asked for the turn since waits in line for it.
-/
namespace FlowRuntime.Rehearsal

def Act.asks? (now : Nat) : Act → Option RunRequest
  | .ahead after (.turn request) => if now + waitFor after ≤ now then some request else none
  | .waiting due (.turn request) => if due ≤ now then some request else none
  | _ => none

def Request.turn? : Request → Option RunRequest
  | .turn request => some request
  | .aside _ => none

theorem Act.asks?_ahead (now after : Nat) (request : Request) :
    (Act.ahead after request).asks? now =
      if now + waitFor after ≤ now then request.turn? else none := by
  cases request with
  | turn r => rfl
  | aside a => exact (ite_self _).symm

theorem Act.asks?_waiting (now due : Nat) (request : Request) :
    (Act.waiting due request).asks? now = if due ≤ now then request.turn? else none := by
  cases request with
  | turn r => rfl
  | aside a => exact (ite_self _).symm

def Act.request? : Act → Option Request
  | .ahead _ request => some request
  | .waiting _ request => some request
  | _ => none

def Finding.IsSingle : Finding → Prop
  | .together _ => False
  | _ => True

/-- Whether an act has nothing to do with the run's turn so far. -/
def Act.IsApart : Act → Prop
  | .inLine _ => False
  | .calling _ => False
  | .ended _ finding => finding.IsSingle
  | _ => True

/-- What goes on besides: others have their turns, time passes, and ensembles are entered. -/
inductive Pastime : Scene → Scene → Prop where
  | worked (s : Scene) (turns : Nat) : Pastime s (s.workRound turns)
  | passed (s : Scene) (time : Nat) : Pastime s (s.advance time)
  | entered (s : Scene) (place : Nat) (entrance : Entrance) :
      Pastime s ((s.unstir place).enter place entrance).1

/-- Acts in their places, which are seen to in any order, with the requests for which they have asked
for the run's turn, in the order in which they did. -/
inductive Concert (s₀ : Scene) (acts₀ : Nat → Act) :
    List (Nat × RunRequest) → Scene → (Nat → Act) → Prop where
  | opened : Concert s₀ acts₀ [] s₀ acts₀
  | seen {asked : List (Nat × RunRequest)} {s : Scene} {acts : Nat → Act}
      (before : Concert s₀ acts₀ asked s acts) (place : Nat) :
      Concert s₀ acts₀ (asked ++ ((acts place).asks? s.now).toList.map (place, ·))
        ((s.unstir place).seeTo place (acts place)).1
        (Function.update acts place ((s.unstir place).seeTo place (acts place)).2)
  | meanwhile {asked : List (Nat × RunRequest)} {s s' : Scene} {acts : Nat → Act}
      (before : Concert s₀ acts₀ asked s acts) (step : Pastime s s') : Concert s₀ acts₀ asked s' acts

/-! ### Requests that have been answered -/

def exchanged (series : List Service) : List Exchange := series.flatMap (·.log)

/-- From the one scene to the other, these requests have been carried out, and nothing else. -/
structure Rests (s₀ : Scene) (series : List Service) (s : Scene) : Prop where
  serves : Serves s₀.run series s.run
  calls : s.world.calls = (callsOf (exchanged series)).reverse ++ s₀.world.calls
  taken : s₀.world.partitioner.TakesAll (exchanged series) s.world.partitioner

def Busy (s₀ : Scene) (series : List Service) (request : RunRequest) (s : Scene)
    (form : Undertaking Finding ⊕ Finding) : Prop :=
  ∃ s₁, Rests s₀ series s₁ ∧
    Follows ((Finding.ofAnswer <$> request.operation) s₁.run) s₁ s form

section
variable {s₀ s s' : Scene} {series : List Service} {request : RunRequest}

theorem Pastime.aloof (step : Pastime s s') : Aloof s s' := by
  cases step with
  | worked turns => exact .workRound s turns
  | passed time => exact .advance s time
  | entered place entrance =>
    have unstirred : Aloof s (s.unstir place) := ⟨rfl, rfl, rfl, rfl⟩
    exact unstirred.trans (unheard_enter _ place entrance).toAloof

theorem Pastime.seated (step : Pastime s s') : Seated s s' := by
  cases step with
  | worked turns => exact .workRound s turns
  | passed time => exact .advance s time
  | entered place entrance =>
    have unstirred : Seated s (s.unstir place) := ⟨rfl, rfl⟩
    exact unstirred.trans (.enter _ place entrance)

theorem Rests.opened (s₀ : Scene) : Rests s₀ [] s₀ := ⟨.none s₀.run, rfl, rfl⟩

theorem Rests.aloof (rests : Rests s₀ series s) (aloof : Aloof s s') : Rests s₀ series s' where
  serves := by
    rw [aloof.run]
    exact rests.serves
  calls := aloof.calls.trans rests.calls
  taken := by
    rw [aloof.partitioner]
    exact rests.taken

theorem Busy.aloof {form : Undertaking Finding ⊕ Finding} (busy : Busy s₀ series request s form)
    (aloof : Aloof s s') : Busy s₀ series request s' form := by
  obtain ⟨s₁, rests, follows⟩ := busy
  exact ⟨s₁, rests, follows.aloof aloof⟩

theorem busy_drive (rests : Rests s₀ series s) (request : RunRequest) (place : Nat) :
    Busy s₀ series request (s.drive place ((Finding.ofAnswer <$> request.operation) s.run)).1
      (s.drive place ((Finding.ofAnswer <$> request.operation) s.run)).2 :=
  ⟨s, rests, follows_drive _ s place⟩

theorem Busy.goOn {u : Undertaking Finding} (busy : Busy s₀ series request s (.inl u))
    (place : Nat) : Busy s₀ series request (s.goOn place u).1 (s.goOn place u).2 := by
  obtain ⟨s₁, rests, follows⟩ := busy
  exact ⟨s₁, rests, follows_goOn follows place⟩

theorem Busy.answered {finding : Finding} (busy : Busy s₀ series request s (.inr finding)) :
    ∃ log answer, finding = .ofAnswer answer ∧
      Rests s₀ (series ++ [⟨request, log, answer⟩]) s := by
  obtain ⟨s₁, rests, log, b', leads, ⟨run, ended⟩, _, here, calls, taken⟩ := busy
  obtain ⟨b, course, rfl⟩ := Activity.map_leads_iff.mp leads
  cases b with
  | waiting run call resume => cases ended
  | done run answer =>
    cases ended
    refine ⟨log, answer, rfl, ?_, ?_, ?_⟩
    · rw [here]
      exact rests.serves.trans (.next course (.none run))
    · rw [calls, rests.calls]
      simp [exchanged, callsOf, Activity.phases, Activity.bind, List.flatMap_def]
    · have both := Partitioner.takesAll_append.mpr ⟨_, rests.taken, taken⟩
      simpa [exchanged] using both

end

/-! ### The order of turns -/

/-- The requests for which the turn has been asked for: those that have been answered, the one whose
turn it is, and those that wait in line. -/
def turns (past : List (Nat × Service)) (current : Option (Nat × RunRequest))
    (waiting : List (Nat × RunRequest)) : List (Nat × RunRequest) :=
  past.map (fun e => (e.1, e.2.request)) ++ current.toList ++ waiting

/-- What is done about the run: nothing, or the request whose turn it is will be or is carried out. -/
inductive InHand (s₀ : Scene) (series : List Service) (s : Scene) (acts : Nat → Act) :
    Option (Nat × RunRequest) → Prop where
  | free (rests : Rests s₀ series s) : InHand s₀ series s acts none
  | next {place : Nat} {request : RunRequest} (rests : Rests s₀ series s)
      (waits : acts place = .inLine request) : InHand s₀ series s acts (some (place, request))
  | busy {place : Nat} {request : RunRequest} {u : Undertaking Finding}
      (busy : Busy s₀ series request s (.inl u)) (calling : acts place = .calling u) :
      InHand s₀ series s acts (some (place, request))

/-- How an act may stand that has not asked for the run's turn: a request of the run is still ahead. -/
def Act.Since (act act₀ : Act) : Prop :=
  match act with
  | .ahead _ request => act₀.request? = some request
  | .waiting _ request => act₀.request? = some request
  | .inLine _ => False
  | .calling _ => False
  | .resting _ => ∀ request, act₀.request? ≠ some (.turn request)
  | .joining _ _ => ∀ request, act₀.request? ≠ some (.turn request)
  | .ended _ finding => finding.IsSingle ∧ ∀ request, act₀.request? ≠ some (.turn request)

/-- How things stand while acts are seen to: requests are carried out in the order in which the turn
was asked for. -/
structure Serial (s₀ : Scene) (acts₀ : Nat → Act) (past : List (Nat × Service))
    (current : Option (Nat × RunRequest)) (waiting : List (Nat × RunRequest)) (s : Scene)
    (acts : Nat → Act) : Prop where
  turn : s.turn = current.map (·.1)
  line : s.line = waiting.map (·.1)
  served : current = none → waiting = []
  once : ((turns past current waiting).map (·.1)).Nodup
  meant : ∀ e ∈ turns past current waiting, (acts₀ e.1).request? = some (.turn e.2)
  inHand : InHand s₀ (past.map (·.2)) s acts current
  answered : ∀ e ∈ past, ∃ time, acts e.1 = .ended time (.ofAnswer e.2.answer)
  waits : ∀ e ∈ waiting, acts e.1 = .inLine e.2
  apart : ∀ place, place ∉ (turns past current waiting).map (·.1) → (acts place).Since (acts₀ place)

section
variable {s₀ s s' : Scene} {acts₀ acts : Nat → Act} {past : List (Nat × Service)}
  {current : Option (Nat × RunRequest)} {waiting : List (Nat × RunRequest)} {place : Nat}

theorem mem_places {place : Nat} : place ∈ (turns past current waiting).map (·.1) ↔
    (∃ service, (place, service) ∈ past) ∨ (∃ request, current = some (place, request)) ∨
      ∃ request, (place, request) ∈ waiting := by
  simp only [turns, List.map_append, List.mem_append, List.mem_map, Prod.exists, Option.mem_toList,
    or_assoc]
  constructor
  · rintro (⟨p, r, ⟨q, service, mem, same⟩, rfl⟩ | ⟨p, r, here, rfl⟩ | ⟨p, r, mem, rfl⟩)
    · cases same
      exact .inl ⟨service, mem⟩
    · exact .inr (.inl ⟨r, here⟩)
    · exact .inr (.inr ⟨r, mem⟩)
  · rintro (⟨service, mem⟩ | ⟨request, here⟩ | ⟨request, mem⟩)
    · exact .inl ⟨place, service.request, ⟨place, service, mem, rfl⟩, rfl⟩
    · exact .inr (.inl ⟨place, request, here, rfl⟩)
    · exact .inr (.inr ⟨place, request, mem, rfl⟩)

theorem InHand.aside {series : List Service} {acts' : Nat → Act}
    (inHand : InHand s₀ series s acts current) (aloof : Aloof s s')
    (same : ∀ e, current = some e → acts' e.1 = acts e.1) : InHand s₀ series s' acts' current := by
  cases inHand with
  | free rests => exact .free (rests.aloof aloof)
  | next rests waits => exact .next (rests.aloof aloof) ((same _ rfl).trans waits)
  | busy busy calling => exact .busy (busy.aloof aloof) ((same _ rfl).trans calling)

theorem update_of_asked (unasked : place ∉ (turns past current waiting).map (·.1)) (act : Act)
    {p : Nat} (asked : p ∈ (turns past current waiting).map (·.1)) :
    Function.update acts place act p = acts p := by
  apply Function.update_of_ne
  rintro rfl
  exact unasked asked

theorem serial_opened (free : s₀.turn = none) (unlined : s₀.line = [])
    (apart : ∀ place, (acts₀ place).IsApart) : Serial s₀ acts₀ [] none [] s₀ acts₀ where
  turn := free
  line := unlined
  served _ := rfl
  once := List.nodup_nil
  meant := by simp [turns]
  inHand := .free (.opened s₀)
  answered := by simp
  waits := by simp
  apart := by
    intro place _
    have here := apart place
    generalize acts₀ place = act at here ⊢
    cases act with
    | ahead | waiting => rfl
    | inLine | calling => exact here.elim
    | resting | joining =>
      intro request ahead
      cases ahead
    | ended time finding =>
      refine ⟨here, ?_⟩
      intro request ahead
      cases ahead

theorem since_joiningAct (s : Scene) (listeners : List Nat) (due : Nat) {act₀ : Act}
    (never : ∀ request, act₀.request? ≠ some (.turn request)) :
    (s.joiningAct listeners due).Since act₀ := by
  simp only [Scene.joiningAct]
  split
  · exact ⟨trivial, never⟩
  · split
    · exact ⟨trivial, never⟩
    · exact never

namespace Serial

theorem asked_cases (serial : Serial s₀ acts₀ past current waiting s acts)
    (asked : place ∈ (turns past current waiting).map (·.1)) :
    (∃ time finding, acts place = .ended time finding) ∨
    (∃ request, current = some (place, request) ∧ Rests s₀ (past.map (·.2)) s ∧
      acts place = .inLine request) ∨
    (∃ request u, current = some (place, request) ∧ Busy s₀ (past.map (·.2)) request s (.inl u) ∧
      acts place = .calling u) ∨
    ∃ request, (place, request) ∈ waiting ∧ acts place = .inLine request := by
  rcases mem_places.mp asked with ⟨service, mem⟩ | ⟨r, rfl⟩ | ⟨r, mem⟩
  · obtain ⟨time, ended⟩ := serial.answered _ mem
    exact .inl ⟨time, _, ended⟩
  · cases serial.inHand with
    | next rests waits => exact .inr (.inl ⟨r, rfl, rests, waits⟩)
    | busy busy calling => exact .inr (.inr (.inl ⟨r, _, rfl, busy, calling⟩))
  · exact .inr (.inr (.inr ⟨r, mem, serial.waits _ mem⟩))

theorem of_inLine (serial : Serial s₀ acts₀ past current waiting s acts) {request : RunRequest}
    (here : acts place = .inLine request) :
    (current = some (place, request) ∧ Rests s₀ (past.map (·.2)) s) ∨ (place, request) ∈ waiting := by
  by_cases asked : place ∈ (turns past current waiting).map (·.1)
  · rcases serial.asked_cases asked with ⟨_, _, same⟩ | ⟨r, turn, rests, same⟩ |
      ⟨_, _, _, _, same⟩ | ⟨r, mem, same⟩
    all_goals
      rw [here] at same
      cases same
    · exact .inl ⟨turn, rests⟩
    · exact .inr mem
  · have apart := serial.apart place asked
    rw [here] at apart
    exact apart.elim

theorem of_calling (serial : Serial s₀ acts₀ past current waiting s acts)
    {u : Undertaking Finding} (here : acts place = .calling u) :
    ∃ request, current = some (place, request) ∧
      Busy s₀ (past.map (·.2)) request s (.inl u) := by
  by_cases asked : place ∈ (turns past current waiting).map (·.1)
  · rcases serial.asked_cases asked with ⟨_, _, same⟩ | ⟨_, _, _, same⟩ |
      ⟨r, _, turn, busy, same⟩ | ⟨_, _, same⟩
    all_goals
      rw [here] at same
      cases same
    exact ⟨r, turn, busy⟩
  · have apart := serial.apart place asked
    rw [here] at apart
    exact apart.elim

theorem unasked (serial : Serial s₀ acts₀ past current waiting s acts) {act : Act}
    (here : acts place = act) (apart : act.IsApart)
    (going : ∀ time finding, act ≠ .ended time finding) :
    place ∉ (turns past current waiting).map (·.1) := by
  subst here
  intro asked
  rcases serial.asked_cases asked with ⟨_, _, ended⟩ | ⟨_, _, _, same⟩ | ⟨_, _, _, _, same⟩ |
    ⟨_, _, same⟩
  · exact going _ _ ended
  all_goals
    rw [same] at apart
    exact apart

theorem since (serial : Serial s₀ acts₀ past current waiting s acts) {act : Act}
    (here : acts place = act) (apart : act.IsApart)
    (going : ∀ time finding, act ≠ .ended time finding) :
    place ∉ (turns past current waiting).map (·.1) ∧ act.Since (acts₀ place) := by
  have unasked := serial.unasked here apart going
  subst here
  exact ⟨unasked, serial.apart place unasked⟩

theorem of_ahead (serial : Serial s₀ acts₀ past current waiting s acts) {act : Act}
    {request : Request} (here : acts place = act) (ahead : act.request? = some request) :
    place ∉ (turns past current waiting).map (·.1) ∧ (acts₀ place).request? = some request := by
  have apart : act.IsApart := by
    cases act with
    | ahead | waiting | resting | joining | ended => trivial
    | inLine | calling => cases ahead
  obtain ⟨unasked, since⟩ := serial.since here apart (by
    rintro time finding rfl
    cases ahead)
  refine ⟨unasked, ?_⟩
  cases act with
  | ahead after r | waiting due r =>
    cases ahead
    exact since
  | inLine | calling | resting | joining | ended => cases ahead

theorem alone {request : RunRequest}
    (serial : Serial s₀ acts₀ past (some (place, request)) waiting s acts) :
    (∀ e ∈ past, e.1 ≠ place) ∧ ∀ e ∈ waiting, e.1 ≠ place := by
  have once := serial.once
  simp only [turns, Option.toList_some, List.append_assoc, List.map_append, List.nodup_append,
    List.map_cons, List.singleton_append, List.nodup_cons] at once
  constructor
  · intro e mem
    exact once.2.2 e.1 (by simpa using ⟨e.2, mem⟩) place List.mem_cons_self
  · rintro e mem rfl
    exact once.2.1.1 (List.mem_map_of_mem mem)

theorem aloof (serial : Serial s₀ acts₀ past current waiting s acts) (aloof : Aloof s s')
    (seated : Seated s s') : Serial s₀ acts₀ past current waiting s' acts :=
  { serial with
    turn := seated.turn.trans serial.turn
    line := seated.line.trans serial.line
    inHand := serial.inHand.aside aloof fun _ _ => rfl }

section
variable (serial : Serial s₀ acts₀ past current waiting s acts)
  (unasked : place ∉ (turns past current waiting).map (·.1)) (act : Act)
include serial unasked

/-! Whatever one does who has not asked for the turn, those who have stand as before. -/

theorem answered_beside : ∀ e ∈ past, ∃ time,
    Function.update acts place act e.1 = .ended time (.ofAnswer e.2.answer) := by
  intro e mem
  rw [update_of_asked unasked act (mem_places.mpr (.inl ⟨e.2, mem⟩))]
  exact serial.answered e mem

theorem waits_beside : ∀ e ∈ waiting, Function.update acts place act e.1 = .inLine e.2 := by
  intro e mem
  rw [update_of_asked unasked act (mem_places.mpr (.inr (.inr ⟨e.2, mem⟩)))]
  exact serial.waits e mem

theorem inHand_beside (aloof : Aloof s s') :
    InHand s₀ (past.map (·.2)) s' (Function.update acts place act) current := by
  refine serial.inHand.aside aloof ?_
  rintro e rfl
  exact update_of_asked unasked act (mem_places.mpr (.inr (.inl ⟨e.2, rfl⟩)))

end

theorem update (serial : Serial s₀ acts₀ past current waiting s acts)
    (unasked : place ∉ (turns past current waiting).map (·.1)) {act : Act}
    (since : act.Since (acts₀ place)) :
    Serial s₀ acts₀ past current waiting s (Function.update acts place act) := by
  exact { serial with
    inHand := serial.inHand_beside unasked act ⟨rfl, rfl, rfl, rfl⟩
    answered := serial.answered_beside unasked act
    waits := serial.waits_beside unasked act
    apart := by
      intro p here
      by_cases same : p = place
      · subst same
        rw [Function.update_self]
        exact since
      · rw [Function.update_of_ne same]
        exact serial.apart p here }

/-! ### Taking a turn -/

theorem once_asked (serial : Serial s₀ acts₀ past current waiting s acts)
    (unasked : place ∉ (turns past current waiting).map (·.1)) (request : RunRequest) :
    ((turns past current waiting ++ [(place, request)]).map (·.1)).Nodup := by
  rw [List.map_append, List.nodup_append]
  refine ⟨serial.once, by simp, ?_⟩
  intro p mem q here
  rw [List.map_singleton, List.mem_singleton] at here
  rintro rfl
  rw [here] at mem
  exact unasked mem

theorem meant_asked (serial : Serial s₀ acts₀ past current waiting s acts) {request : RunRequest}
    (meant : (acts₀ place).request? = some (.turn request)) :
    ∀ e ∈ turns past current waiting ++ [(place, request)],
      (acts₀ e.1).request? = some (.turn e.2) := by
  intro e mem
  rcases List.mem_append.mp mem with before | here
  · exact serial.meant e before
  · rw [List.mem_singleton.mp here]
    exact meant

theorem since_asked (serial : Serial s₀ acts₀ past current waiting s acts) (act : Act)
    {request : RunRequest} {p : Nat}
    (here : p ∉ (turns past current waiting ++ [(place, request)]).map (·.1)) :
    (Function.update acts place act p).Since (acts₀ p) := by
  rw [List.map_append, List.mem_append, not_or] at here
  rw [Function.update_of_ne (by simpa using here.2)]
  exact serial.apart p here.1

theorem taken (serial : Serial s₀ acts₀ past none [] s acts)
    (unasked : place ∉ (turns past none []).map (·.1)) {request : RunRequest}
    (meant : (acts₀ place).request? = some (.turn request)) :
    Serial s₀ acts₀ past (some (place, request)) [] { s with turn := some place }
      (Function.update acts place (.inLine request)) := by
  have same : turns past (some (place, request)) [] = turns past none [] ++ [(place, request)] := by
    simp [turns]
  exact {
    turn := rfl
    line := serial.line
    served := by simp
    once := by
      rw [same]
      exact serial.once_asked unasked request
    meant := by
      rw [same]
      exact serial.meant_asked meant
    inHand := by
      cases serial.inHand with
      | free rests => exact .next (rests.aloof ⟨rfl, rfl, rfl, rfl⟩) (Function.update_self ..)
    answered := serial.answered_beside unasked _
    waits := by simp
    apart := by
      intro p here
      rw [same] at here
      exact serial.since_asked _ here }

theorem stood (serial : Serial s₀ acts₀ past current waiting s acts) (held : current ≠ none)
    (unasked : place ∉ (turns past current waiting).map (·.1)) {request : RunRequest}
    (meant : (acts₀ place).request? = some (.turn request)) :
    Serial s₀ acts₀ past current (waiting ++ [(place, request)])
      { s with line := s.line ++ [place] } (Function.update acts place (.inLine request)) := by
  have same : turns past current (waiting ++ [(place, request)]) =
      turns past current waiting ++ [(place, request)] := by
    simp [turns]
  exact {
    turn := serial.turn
    line := by simp [serial.line]
    served := by
      intro none
      exact absurd none held
    once := by
      rw [same]
      exact serial.once_asked unasked request
    meant := by
      rw [same]
      exact serial.meant_asked meant
    inHand := serial.inHand_beside unasked _ ⟨rfl, rfl, rfl, rfl⟩
    answered := serial.answered_beside unasked _
    waits := by
      intro e mem
      rcases List.mem_append.mp mem with before | here
      · exact serial.waits_beside unasked _ e before
      · rw [List.mem_singleton.mp here]
        exact Function.update_self ..
    apart := by
      intro p here
      rw [same] at here
      exact serial.since_asked _ here }

/-! ### Passing it on -/

theorem since_update {request : RunRequest}
    (serial : Serial s₀ acts₀ past (some (place, request)) waiting s acts) (act : Act) {p : Nat}
    (unasked : p ∉ (turns past (some (place, request)) waiting).map (·.1)) :
    (Function.update acts place act p).Since (acts₀ p) := by
  have apart : p ≠ place := by
    rintro rfl
    exact unasked (mem_places.mpr (.inr (.inl ⟨request, rfl⟩)))
  rw [Function.update_of_ne apart]
  exact serial.apart p unasked

theorem answered_update {request : RunRequest}
    (serial : Serial s₀ acts₀ past (some (place, request)) waiting s acts) (log : List Exchange)
    (answer : RunAnswer) (now : Nat) :
    ∀ e ∈ past ++ [(place, Service.mk request log answer)], ∃ time,
      Function.update acts place (.ended now (.ofAnswer answer)) e.1 =
        .ended time (.ofAnswer e.2.answer) := by
  intro e mem
  rcases List.mem_append.mp mem with before | here
  · rw [Function.update_of_ne (serial.alone.1 e before)]
    exact serial.answered e before
  · rw [List.mem_singleton.mp here]
    exact ⟨now, Function.update_self ..⟩

theorem called {request : RunRequest}
    (serial : Serial s₀ acts₀ past (some (place, request)) waiting s acts) (seated : Seated s s')
    {u : Undertaking Finding} (busy : Busy s₀ (past.map (·.2)) request s' (.inl u)) :
    Serial s₀ acts₀ past (some (place, request)) waiting s'
      (Function.update acts place (.calling u)) :=
  { serial with
    turn := seated.turn.trans serial.turn
    line := seated.line.trans serial.line
    inHand := .busy busy (Function.update_self ..)
    answered := by
      intro e mem
      rw [Function.update_of_ne (serial.alone.1 e mem)]
      exact serial.answered e mem
    waits := by
      intro e mem
      rw [Function.update_of_ne (serial.alone.2 e mem)]
      exact serial.waits e mem
    apart := by
      intro p unasked
      exact serial.since_update _ unasked }

theorem freed {request : RunRequest}
    (serial : Serial s₀ acts₀ past (some (place, request)) [] s acts) (seated : Seated s s')
    {log : List Exchange} {answer : RunAnswer}
    (rests : Rests s₀ ((past ++ [(place, Service.mk request log answer)]).map (·.2)) s') :
    Serial s₀ acts₀ (past ++ [(place, Service.mk request log answer)]) none [] s'.passTurn
      (Function.update acts place (.ended s'.now (.ofAnswer answer))) := by
  have same : turns (past ++ [(place, Service.mk request log answer)]) none [] =
      turns past (some (place, request)) [] := by
    simp [turns]
  have line : s'.line = [] := seated.line.trans serial.line
  have stays : s'.passTurn = { s' with turn := none } := by simp [Scene.passTurn, line]
  exact {
    turn := by rw [stays]; rfl
    line := by rw [stays]; exact line
    served := by simp
    once := same ▸ serial.once
    meant := same ▸ serial.meant
    inHand := .free (rests.aloof (.ofReordered (.passTurn s')))
    answered := serial.answered_update log answer s'.now
    waits := by simp
    apart := by
      intro p unasked
      exact serial.since_update _ (same ▸ unasked) }

theorem handed {request : RunRequest} {next : Nat × RunRequest} {rest : List (Nat × RunRequest)}
    (serial : Serial s₀ acts₀ past (some (place, request)) (next :: rest) s acts)
    (seated : Seated s s') {log : List Exchange} {answer : RunAnswer}
    (rests : Rests s₀ ((past ++ [(place, Service.mk request log answer)]).map (·.2)) s') :
    Serial s₀ acts₀ (past ++ [(place, Service.mk request log answer)]) (some next) rest s'.passTurn
      (Function.update acts place (.ended s'.now (.ofAnswer answer))) := by
  have same : turns (past ++ [(place, Service.mk request log answer)]) (some next) rest =
      turns past (some (place, request)) (next :: rest) := by
    simp [turns]
  have line : s'.line = (next :: rest).map (·.1) := seated.line.trans serial.line
  have moves : Seated { s' with turn := some next.1, line := rest.map (·.1) } s'.passTurn := by
    simp only [Scene.passTurn, line, List.map_cons]
    exact .wake _ _
  have waits : ∀ e ∈ next :: rest,
      Function.update acts place (.ended s'.now (.ofAnswer answer)) e.1 = .inLine e.2 := by
    intro e mem
    rw [Function.update_of_ne (serial.alone.2 e mem)]
    exact serial.waits e mem
  exact {
    turn := moves.turn
    line := moves.line
    served := by simp
    once := same ▸ serial.once
    meant := same ▸ serial.meant
    inHand := .next (rests.aloof (.ofReordered (.passTurn s'))) (waits next List.mem_cons_self)
    answered := serial.answered_update log answer s'.now
    waits := fun e mem => waits e (List.mem_cons_of_mem _ mem)
    apart := by
      intro p unasked
      exact serial.since_update _ (same ▸ unasked) }

theorem settleCall {request : RunRequest}
    (serial : Serial s₀ acts₀ past (some (place, request)) waiting s acts)
    {now : Scene × (Undertaking Finding ⊕ Finding)} (seated : Seated s now.1)
    (busy : Busy s₀ (past.map (·.2)) request now.1 now.2) :
    ∃ past' current' waiting',
      turns past' current' waiting' = turns past (some (place, request)) waiting ∧
      Serial s₀ acts₀ past' current' waiting' (Scene.settleCall now).1
        (Function.update acts place (Scene.settleCall now).2) := by
  obtain ⟨s', u | finding⟩ := now
  · exact ⟨past, some (place, request), waiting, rfl, serial.called seated busy⟩
  · obtain ⟨log, answer, rfl, rests⟩ := busy.answered
    have answered : Rests s₀ ((past ++ [(place, Service.mk request log answer)]).map (·.2)) s' := by
      rwa [List.map_append]
    cases waiting with
    | nil => exact ⟨_, none, [], by simp [turns], serial.freed seated answered⟩
    | cons next rest => exact ⟨_, some next, rest, by simp [turns], serial.handed seated answered⟩

/-! ### Seeing to an act -/

theorem attended (serial : Serial s₀ acts₀ past current waiting s acts)
    (unasked : place ∉ (turns past current waiting).map (·.1)) {a : Aside}
    (meant : (acts₀ place).request? = some (.aside a)) :
    Serial s₀ acts₀ past current waiting (s.attend place a).1
      (Function.update acts place (s.attend place a).2) := by
  have never : ∀ request, (acts₀ place).request? ≠ some (.turn request) := by
    intro request same
    rw [meant] at same
    cases same
  apply (serial.aloof (aloof_attend s place a) (.attend s place a)).update unasked
  cases a with
  | sleep ms =>
    simp only [Scene.attend, Scene.rest]
    split
    · exact ⟨trivial, never⟩
    · exact never
  | join =>
    exact since_joiningAct _ _ _ never
  | _ => exact ⟨trivial, never⟩

theorem begun (serial : Serial s₀ acts₀ past current waiting s acts) {request : Request}
    (unasked : place ∉ (turns past current waiting).map (·.1))
    (meant : (acts₀ place).request? = some request) :
    ∃ past' current' waiting', turns past' current' waiting' =
        turns past current waiting ++ request.turn?.toList.map (place, ·) ∧
      Serial s₀ acts₀ past' current' waiting' (s.begin place request).1
        (Function.update acts place (s.begin place request).2) := by
  cases request with
  | aside a =>
    exact ⟨past, current, waiting, by simp [Request.turn?], serial.attended unasked meant⟩
  | turn r =>
    have turn := serial.turn
    cases current with
    | none =>
      obtain rfl := serial.served rfl
      have taken := serial.taken unasked meant
      have rests : Rests s₀ (past.map (·.2)) { s with turn := some place } := by
        cases serial.inHand with
        | free rests => exact rests.aloof ⟨rfl, rfl, rfl, rfl⟩
      obtain ⟨past', current', waiting', same, next⟩ :=
        taken.settleCall (.drive _ place _) (busy_drive rests r place)
      rw [Function.update_idem] at next
      refine ⟨past', current', waiting', by rw [same]; simp [turns, Request.turn?], ?_⟩
      simpa [Scene.begin, Scene.takeTurn, turn, Scene.carryOut] using next
    | some e =>
      have held : s.turn.isNone = false := by simp [turn]
      refine ⟨past, some e, waiting ++ [(place, r)], by simp [turns, Request.turn?], ?_⟩
      simpa [Scene.begin, Scene.takeTurn, held] using serial.stood (by simp) unasked meant

theorem seeTo (serial : Serial s₀ acts₀ past current waiting s acts) (place : Nat) :
    ∃ past' current' waiting', turns past' current' waiting' = turns past current waiting ++
        ((acts place).asks? s.now).toList.map (place, ·) ∧
      Serial s₀ acts₀ past' current' waiting' (s.seeTo place (acts place)).1
        (Function.update acts place (s.seeTo place (acts place)).2) := by
  have still : Serial s₀ acts₀ past current waiting s (Function.update acts place (acts place)) := by
    rwa [Function.update_eq_self]
  cases here : acts place with
  | ahead after request =>
    obtain ⟨unasked, meant⟩ := serial.of_ahead here rfl
    rw [Act.asks?_ahead, Scene.seeTo]
    split
    · exact serial.begun unasked meant
    · refine ⟨past, current, waiting, by simp, ?_⟩
      exact (serial.aloof (.ofReordered (.cue _ _ _)) (.cue _ _ _)).update unasked meant
  | waiting due request =>
    obtain ⟨unasked, meant⟩ := serial.of_ahead here rfl
    rw [Act.asks?_waiting, Scene.seeTo]
    split
    · exact serial.begun unasked meant
    · exact ⟨past, current, waiting, by simp, serial.update unasked meant⟩
  | inLine request =>
    simp only [Scene.seeTo, Act.asks?, Option.toList_none, List.map_nil, List.append_nil]
    split
    · rename_i turn
      rcases serial.of_inLine here with ⟨rfl, rests⟩ | mem
      · exact serial.settleCall (.drive _ place _) (busy_drive rests request place)
      · rw [serial.turn, Option.map_eq_some_iff] at turn
        obtain ⟨e, rfl, rfl⟩ := turn
        exact absurd rfl (serial.alone.2 (e.1, request) mem)
    · rw [here] at still
      exact ⟨past, current, waiting, rfl, still⟩
  | calling u =>
    obtain ⟨request, rfl, busy⟩ := serial.of_calling here
    simp only [Scene.seeTo, Act.asks?, Option.toList_none, List.map_nil, List.append_nil]
    exact serial.settleCall (.goOn _ place u) (busy.goOn place)
  | resting due =>
    obtain ⟨unasked, never⟩ := serial.since here trivial (by simp)
    refine ⟨past, current, waiting, by simp [Act.asks?], ?_⟩
    simp only [Scene.seeTo]
    split
    · exact serial.update unasked ⟨trivial, never⟩
    · exact serial.update unasked never
  | joining listeners due =>
    obtain ⟨unasked, never⟩ := serial.since here trivial (by simp)
    refine ⟨past, current, waiting, by simp [Act.asks?], ?_⟩
    simp only [Scene.seeTo]
    exact serial.update unasked (since_joiningAct _ listeners due never)
  | ended time finding =>
    rw [here] at still
    exact ⟨past, current, waiting, by simp [Act.asks?], still⟩

end Serial

/-- At every moment requests have been carried out in the order in which the turn was asked for. -/
theorem Concert.serial {asked : List (Nat × RunRequest)} (concert : Concert s₀ acts₀ asked s acts)
    (free : s₀.turn = none) (unlined : s₀.line = []) (apart : ∀ place, (acts₀ place).IsApart) :
    ∃ past current waiting, asked = turns past current waiting ∧
      Serial s₀ acts₀ past current waiting s acts := by
  induction concert with
  | opened => exact ⟨[], none, [], rfl, serial_opened free unlined apart⟩
  | @seen asked s acts before place ih =>
    obtain ⟨past, current, waiting, rfl, serial⟩ := ih
    have unstirred : Serial s₀ acts₀ past current waiting (s.unstir place) acts :=
      serial.aloof ⟨rfl, rfl, rfl, rfl⟩ ⟨rfl, rfl⟩
    obtain ⟨past', current', waiting', same, next⟩ := unstirred.seeTo place
    exact ⟨past', current', waiting', same.symm, next⟩
  | meanwhile before step ih =>
    obtain ⟨past, current, waiting, same, serial⟩ := ih
    exact ⟨past, current, waiting, same, serial.aloof step.aloof step.seated⟩

end
end FlowRuntime.Rehearsal
