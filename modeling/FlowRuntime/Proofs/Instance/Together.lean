import Mathlib.Logic.Relation
import FlowRuntime.Proofs.Instance.Office

/-!
Requests issued together, and the same requests issued one after the other. As long as nobody is
overtaken in line, what becomes of everyone is settled when the last request is issued, whatever
is done in the office then and however long the line is. So both ways leave the instance in the
same state, and each request is granted in both or in neither, with one exception: a request to
stop that is issued behind another one, before the instance has stopped. It fails, where it would
be waved off if it came later.
-/
namespace FlowRuntime

namespace LocalInstance

def requestEach (i : LocalInstance) : List InstanceOp → LocalInstance × List Answer
  | [] => (i, [])
  | op :: rest =>
    let (i, answer) := i.request op
    let (i, answers) := i.requestEach rest
    (i, answer :: answers)

theorem requestEach_cons (i : LocalInstance) (op : InstanceOp) (rest : List InstanceOp) :
    i.requestEach (op :: rest) = (((i.request op).1.requestEach rest).1,
      (i.request op).2 :: ((i.request op).1.requestEach rest).2) := rfl

theorem request_of_going {i : LocalInstance} (going : i.state ≠ .stopped) (op : InstanceOp) :
    i.request op = i.handle op := by
  rw [request, if_neg going]

theorem requestEach_stopped {i : LocalInstance} (stopped : i.state = .stopped)
    (ops : List InstanceOp) : i.requestEach ops = (i, ops.map (refuse i.key)) := by
  induction ops with
  | nil => rfl
  | cons op rest ih =>
    have refused : i.request op = (i, refuse i.key op) := by rw [request, if_pos stopped]
    rw [requestEach_cons, refused, ih, List.map_cons]

theorem requests_singleton (i : LocalInstance) (op : InstanceOp) :
    i.requests [op] = ((i.request op).1, [(i.request op).2]) := by
  by_cases stopped : i.state = .stopped
  · simp [requests, request, stopped]
  · rw [requests, if_neg stopped, request_of_going stopped, handleQueue_cons stopped]
    rfl

theorem length_requests (i : LocalInstance) (ops : List InstanceOp) :
    (i.requests ops).2.length = ops.length := by
  unfold requests
  split
  · exact List.length_map _
  · exact length_handleQueue i ops

/-- Which answers say that a request is granted. -/
def grants (answers : List Answer) : List Bool := answers.map (·.isOk)

theorem exists_granted (i : LocalInstance) (ops : List InstanceOp) {k : Nat}
    (within : k < ops.length) : ∃ granted, (grants (i.requests ops).2)[k]? = some granted := by
  have long : k < (grants (i.requests ops).2).length := by
    rwa [grants, List.length_map, length_requests]
  exact ⟨_, List.getElem?_eq_getElem long⟩

theorem length_requestEach (i : LocalInstance) (ops : List InstanceOp) :
    (i.requestEach ops).2.length = ops.length := by
  induction ops generalizing i with
  | nil => rfl
  | cons op rest ih => rw [requestEach_cons, List.length_cons, ih, List.length_cons]

/-- The request is to stop, and so is one before it, and the instance has not stopped yet. -/
def StopsAgain (i : LocalInstance) (ops : List InstanceOp) (k : Nat) : Prop :=
  i.state ≠ .stopped ∧ ops[k]? = some .stop ∧ .stop ∈ ops.take k

theorem isOk_refuse (key : StageKey) (op : InstanceOp) :
    (refuse key op).isOk = decide (op = .stop) := by
  cases op <;> rfl

theorem grants_dropped (ops : List InstanceOp) (k : Nat) (within : k < ops.length) :
    (grants (ops.map fun _ => .error .instanceGone))[k]? = some false := by
  simp [grants, within, Except.isOk, Except.toBool]

theorem grants_refused (key : StageKey) (ops : List InstanceOp) (k : Nat) :
    (grants (ops.map (refuse key)))[k]? = ops[k]?.map fun op => decide (op = .stop) := by
  simp [grants, isOk_refuse, Function.comp_def]

theorem stopsAgain_cons {i i' : LocalInstance} (going : i.state ≠ .stopped)
    (going' : i'.state ≠ .stopped) {op : InstanceOp} (other : op ≠ .stop) (rest : List InstanceOp)
    (k : Nat) : i.StopsAgain (op :: rest) (k + 1) ↔ i'.StopsAgain rest k := by
  simp [StopsAgain, going, going', Ne.symm other]

theorem stopsAgain_cons_stop {i : LocalInstance} (going : i.state ≠ .stopped)
    (rest : List InstanceOp) (k : Nat) :
    i.StopsAgain (.stop :: rest) (k + 1) ↔ rest[k]? = some .stop := by
  simp [StopsAgain, going]

theorem grants_handleQueue {i : LocalInstance} (going : i.state ≠ .stopped) (ops : List InstanceOp)
    (k : Nat) (within : k < ops.length) :
    (i.StopsAgain ops k → (grants (i.handleQueue ops).2)[k]? = some false ∧
      (grants (i.requestEach ops).2)[k]? = some true) ∧
    (¬ i.StopsAgain ops k →
      (grants (i.handleQueue ops).2)[k]? = (grants (i.requestEach ops).2)[k]?) := by
  induction ops generalizing i k with
  | nil => exact absurd within (Nat.not_lt_zero k)
  | cons op rest ih =>
    rw [handleQueue_cons going, requestEach_cons, request_of_going going]
    cases k with
    | zero =>
      constructor
      · intro again
        exact absurd again.2.2 List.not_mem_nil
      · intro _
        rfl
    | succ k =>
      have later : k < rest.length := by simpa using within
      simp only [grants, List.map_cons, List.getElem?_cons_succ]
      by_cases stop : op = .stop
      · subst stop
        have stopped : (i.handle .stop).1.state = .stopped := rfl
        rw [handleQueue_stopped stopped, requestEach_stopped stopped, stopsAgain_cons_stop going]
        have dropped := grants_dropped rest k later
        have refused := grants_refused (i.handle .stop).1.key rest k
        rw [grants] at dropped refused
        rw [dropped, refused, List.getElem?_eq_getElem later]
        by_cases again : rest[k] = .stop <;> simp [again]
      · have going' := handle_going going stop
        rw [stopsAgain_cons going going' stop]
        exact ih going' k later

theorem grants_requests (i : LocalInstance) (ops : List InstanceOp) (k : Nat)
    (within : k < ops.length) :
    (i.StopsAgain ops k → (grants (i.requests ops).2)[k]? = some false ∧
      (grants (i.requestEach ops).2)[k]? = some true) ∧
    (¬ i.StopsAgain ops k →
      (grants (i.requests ops).2)[k]? = (grants (i.requestEach ops).2)[k]?) := by
  by_cases stopped : i.state = .stopped
  · rw [requests, if_pos stopped, requestEach_stopped stopped]
    exact ⟨fun again => absurd stopped again.1, fun _ => rfl⟩
  · rw [requests, if_neg stopped]
    exact grants_handleQueue stopped ops k within

theorem requests_self (i : LocalInstance) (ops : List InstanceOp) :
    (i.requests ops).1 = (i.requestEach ops).1 := by
  by_cases stopped : i.state = .stopped
  · rw [requests, if_pos stopped, requestEach_stopped stopped]
  · rw [requests, if_neg stopped]
    induction ops generalizing i with
    | nil => rfl
    | cons op rest ih =>
      rw [handleQueue_cons stopped, requestEach_cons, request_of_going stopped]
      by_cases stops : (i.handle op).1.state = .stopped
      · rw [handleQueue_stopped stops, requestEach_stopped stops]
      · exact ih _ stops

end LocalInstance

namespace Office

/-! ## In line -/

/-- What is done in the office without letting anybody overtake in line, as long as the instance is
there. -/
structure InTurn (o o' : Office) : Prop where
  works : Works o o'
  order : o.presence ≠ .gone → o'.queue ++ o'.line <:+ o.queue ++ o.line

structure Settles (o o' : Office) : Prop where
  course : Relation.ReflTransGen InTurn o o'
  rests : o'.Resting

/-- Who comes to a stopped instance to ask that it stops is waved off, all others get in line. -/
def issue (o : Office) (op : InstanceOp) : Office :=
  if op = .stop ∧ o.self.state = .stopped then
    { o with
      issued := o.issued ++ [o.ask op],
      settled := o.settled ++ [⟨o.ask op, .wavedOff, .ok ()⟩] }
  else { o with issued := o.issued ++ [o.ask op], line := o.line ++ [o.ask op] }

theorem comes_issue (o : Office) (op : InstanceOp) : Comes o (o.issue op) := by
  unfold issue
  split
  · rename_i late
    obtain ⟨rfl, stopped⟩ := late
    exact .wavedOff o stopped
  · rename_i heard
    rw [not_and_or] at heard
    exact .asks o op heard

/-- Issues requests all at once, before any of them is handled. -/
def issueAll (o : Office) (ops : List InstanceOp) : Office := ops.foldl issue o

/-- Issues requests one after the other, each when nothing is left to do for those before it. -/
inductive InSequence : Office → List InstanceOp → Office → Prop where
  | done (o : Office) : InSequence o [] o
  | next {o mid last : Office} {op : InstanceOp} {rest : List InstanceOp}
      (settles : Settles (o.issue op) mid) (later : InSequence mid rest last) :
      InSequence o (op :: rest) last

def granted? (o : Office) (number : Nat) : Option Bool :=
  (o.settled.find? (·.asked.number = number)).map (·.answer.isOk)

section
variable {i : LocalInstance} {o o' : Office} {ops : List InstanceOp}

theorem becomes_issueAll (o : Office) (ops : List InstanceOp) : Becomes o (o.issueAll ops) := by
  induction ops generalizing o with
  | nil => exact .here
  | cons op rest ih => exact .trans (.step .here (.comes (comes_issue o op))) (ih (o.issue op))

theorem becomes_of_course (course : Relation.ReflTransGen InTurn o o') : Becomes o o' := by
  induction course with
  | refl => exact .here
  | tail _ inTurn ih => exact .step ih (.works inTurn.works)

theorem exists_inTurn (works : Works o o') : ∃ o'', InTurn o o'' := by
  cases works with
  | admits before line present room =>
    cases lined : o.line with
    | nil => simp [lined] at line
    | cons first others =>
      exact ⟨_, .admits o [] lined present room, fun _ => by simp [lined]⟩
  | handles queue works goesOn =>
    refine ⟨_, .handles o queue works goesOn, fun _ => ?_⟩
    rw [queue]
    exact List.suffix_cons _ _
  | stops queue works stops =>
    refine ⟨_, .stops o queue works stops, fun _ => ?_⟩
    rw [queue]
    exact List.suffix_cons _ _
  | leaves leaving => exact ⟨_, .leaves o leaving, fun _ => List.suffix_append _ _⟩
  | turnsAway before line gone =>
    exact ⟨_, .turnsAway o before line gone, fun present => absurd gone present⟩

theorem exists_settles (o : Office) : ∃ o', Settles o o' := by
  induction measure : o.weight using Nat.strongRecOn generalizing o with
  | ind n ih =>
    by_cases resting : o.Resting
    · exact ⟨o, .refl, resting⟩
    · obtain ⟨next, works⟩ : ∃ next, Works o next := by simpa [Resting] using resting
      obtain ⟨next, inTurn⟩ := exists_inTurn works
      obtain ⟨last, settles⟩ := ih next.weight (measure ▸ inTurn.works.weight_lt) next rfl
      exact ⟨last, .head inTurn settles.course, settles.rests⟩

theorem exists_inSequence (o : Office) (ops : List InstanceOp) : ∃ o', InSequence o ops o' := by
  induction ops generalizing o with
  | nil => exact ⟨o, .done o⟩
  | cons op rest ih =>
    obtain ⟨mid, settles⟩ := exists_settles (o.issue op)
    obtain ⟨last, later⟩ := ih mid
    exact ⟨last, .next settles later⟩

/-! ## What becomes of those who wait -/

def waiting (o : Office) : List Asked := o.queue ++ o.line

def results (done : List Settled) : List (Nat × Bool) :=
  done.map fun s => (s.asked.number, s.answer.isOk)

/-- What becomes of those who wait, if nobody else comes. -/
def prospects (self : LocalInstance) (waiting : List Asked) : List (Nat × Bool) :=
  (waiting.map (·.number)).zip (LocalInstance.grants (self.handleQueue (waiting.map (·.op))).2)

def outlook (o : Office) : List (Nat × Bool) :=
  results (o.settled ++ o.joining) ++ prospects o.self o.waiting

def ending (o : Office) : LocalInstance := (o.self.handleQueue (o.waiting.map (·.op))).1

theorem prospects_cons {self : LocalInstance} (going : self.state ≠ .stopped) (asked : Asked)
    (rest : List Asked) : prospects self (asked :: rest) =
      (asked.number, (self.handle asked.op).2.isOk) :: prospects (self.handle asked.op).1 rest := by
  simp [prospects, LocalInstance.handleQueue_cons going, LocalInstance.grants]

theorem prospects_stopped {self : LocalInstance} (stopped : self.state = .stopped)
    (waiting : List Asked) : prospects self waiting = waiting.map fun asked => (asked.number, false) := by
  rw [prospects, LocalInstance.handleQueue_stopped stopped]
  induction waiting with
  | nil => rfl
  | cons asked rest ih =>
    simp only [LocalInstance.grants, List.map_cons, List.zip_cons_cons] at ih ⊢
    rw [ih]
    rfl

/-- What is done in turn changes nothing about what becomes of everyone. -/
theorem InTurn.outlook (inTurn : InTurn o o') (sound : Sound i o) :
    o'.outlook.Perm o.outlook ∧ o'.ending = o.ending := by
  obtain ⟨works, order⟩ := inTurn
  cases works with
  | @admits before after asked line present room =>
    have same : (o.queue ++ [asked]) ++ (before ++ after) = o.queue ++ o.line := by
      apply (order present).eq_of_length
      simp only [line, List.length_append, List.length_cons, List.length_nil]
      omega
    simp only [Office.outlook, ending, waiting, same]
    exact ⟨.refl _, trivial⟩
  | @handles asked rest queue works goesOn =>
    have going := sound.present.mp works
    have joining : o.joining = [] := sound.joins (by simp [works])
    simp [Office.outlook, ending, waiting, queue, joining, results, attend,
      prospects_cons going, LocalInstance.handleQueue_cons going]
  | @stops asked rest queue works stops =>
    have going := sound.present.mp works
    simp [Office.outlook, ending, waiting, queue, results, attend, prospects_cons going,
      LocalInstance.handleQueue_cons going]
  | leaves leaving =>
    have stopped := sound.stopped (by simp [leaving])
    simp [Office.outlook, ending, waiting, results, drop, prospects_stopped stopped,
      LocalInstance.handleQueue_stopped stopped, Function.comp_def, Except.isOk, Except.toBool]
  | @turnsAway before after asked line gone =>
    have stopped := sound.stopped (by simp [gone])
    have joining : o.joining = [] := sound.joins (by simp [gone])
    have queue : o.queue = [] := sound.left gone
    constructor
    · let fails (a : Asked) : Nat × Bool := (a.number, false)
      have middle : (fails asked :: (before.map fails ++ after.map fails)).Perm
          (before.map fails ++ fails asked :: after.map fails) := List.perm_middle.symm
      simpa [Office.outlook, waiting, line, joining, queue, results, turnAway,
        prospects_stopped stopped, Except.isOk, Except.toBool] using middle.append_left _
    · simp [ending, LocalInstance.handleQueue_stopped stopped]

theorem outlook_of_course (course : Relation.ReflTransGen InTurn o o') (sound : Sound i o) :
    o'.outlook.Perm o.outlook ∧ o'.ending = o.ending := by
  induction course with
  | refl => exact ⟨.refl _, rfl⟩
  | tail before inTurn ih =>
    obtain ⟨perm, ending⟩ := inTurn.outlook (sound.becomes (becomes_of_course before))
    exact ⟨perm.trans ih.1, ending.trans ih.2⟩

theorem Sound.outlook_at_rest (sound : Sound i o) (resting : o.Resting) :
    o.outlook = results o.settled ∧ o.ending = o.self := by
  obtain ⟨joining, queue, line⟩ := sound.at_rest resting
  simp [Office.outlook, ending, waiting, prospects, joining, queue, line,
    LocalInstance.handleQueue]

theorem self_issue (o : Office) (op : InstanceOp) : (o.issue op).self = o.self := by
  unfold issue
  split <;> rfl

theorem issueAll_going (going : o.self.state ≠ .stopped) (ops : List InstanceOp) :
    o.issueAll ops = { o with
      issued := o.issued ++ issuedFrom o.issued.length ops
      line := o.line ++ issuedFrom o.issued.length ops } := by
  induction ops generalizing o with
  | nil => simp [issueAll, issuedFrom]
  | cons op rest ih =>
    have later := ih (o := o.issue op) (by rwa [self_issue])
    change (o.issue op).issueAll rest = _
    rw [later]
    simp [issue, ask, going, issuedFrom]

theorem issuedFrom_numbers (n : Nat) (ops : List InstanceOp) :
    (issuedFrom n ops).map (·.number) = List.range' n ops.length := by
  induction ops generalizing n with
  | nil => rfl
  | cons op rest ih => rw [issuedFrom, List.map_cons, ih, List.length_cons, List.range'_succ]

theorem issued_issue (o : Office) (op : InstanceOp) :
    (o.issue op).issued = o.issued ++ [o.ask op] := by
  unfold issue
  split <;> rfl

theorem outlook_issue_stopped (stopped : o.self.state = .stopped) (op : InstanceOp) :
    (o.issue op).outlook.Perm (o.outlook ++ [(o.issued.length, decide (op = .stop))]) := by
  by_cases stop : op = .stop
  · have waved : (o.issue op).outlook = results o.settled ++ (o.issued.length, true) ::
        (results o.joining ++ prospects o.self o.waiting) := by
      simp [issue, stop, stopped, Office.outlook, results, waiting, ask, Except.isOk, Except.toBool]
    have before : o.outlook = results o.settled ++ (results o.joining ++ prospects o.self o.waiting) := by
      simp [Office.outlook, results]
    rw [waved, before, stop, List.append_assoc]
    apply List.Perm.append_left
    exact (List.perm_append_singleton _ _).symm
  · simp [issue, stop, Office.outlook, waiting, prospects_stopped stopped, ask]

theorem ending_stopped (stopped : o.self.state = .stopped) : o.ending = o.self := by
  rw [ending, LocalInstance.handleQueue_stopped stopped]

theorem outlook_issueAll_stopped (stopped : o.self.state = .stopped) (ops : List InstanceOp) :
    (o.issueAll ops).outlook.Perm (o.outlook ++
      (List.range' o.issued.length ops.length).zip (ops.map fun op => decide (op = .stop))) ∧
    (o.issueAll ops).self = o.self := by
  induction ops generalizing o with
  | nil => simp [issueAll]
  | cons op rest ih =>
    have stopped' : (o.issue op).self.state = .stopped := by rwa [self_issue]
    obtain ⟨perm, self⟩ := ih stopped'
    rw [issued_issue, List.length_append, List.length_singleton] at perm
    constructor
    · change ((o.issue op).issueAll rest).outlook.Perm _
      rw [List.length_cons, List.range'_succ, List.map_cons, List.zip_cons_cons]
      refine perm.trans (((outlook_issue_stopped stopped op).append_right _).trans ?_)
      simp
    · exact self.trans (self_issue o op)

/-- Issued together when all is done, requests have before them what a queue of them has. -/
theorem Sound.outlook_issueAll (sound : Sound i o) (resting : o.Resting) (ops : List InstanceOp) :
    (o.issueAll ops).outlook.Perm (results o.settled ++
      (List.range' o.issued.length ops.length).zip (LocalInstance.grants (o.self.requests ops).2)) ∧
    (o.issueAll ops).ending = (o.self.requests ops).1 := by
  obtain ⟨joining, queue, line⟩ := sound.at_rest resting
  by_cases stopped : o.self.state = .stopped
  · obtain ⟨perm, self⟩ := outlook_issueAll_stopped stopped ops
    rw [(sound.outlook_at_rest resting).1] at perm
    have refused : LocalInstance.grants (ops.map (LocalInstance.refuse o.self.key)) =
        ops.map fun op => decide (op = .stop) := by
      simp [LocalInstance.grants, LocalInstance.isOk_refuse, Function.comp_def]
    rw [LocalInstance.requests, if_pos stopped]
    constructor
    · rwa [refused]
    · rw [ending_stopped (by rwa [self]), self]
  · rw [LocalInstance.requests, if_neg stopped, issueAll_going stopped]
    simp [Office.outlook, ending, waiting, prospects, joining, queue, line, issuedFrom_ops,
      issuedFrom_numbers]

/-! ## Together and in sequence -/

theorem course_issued (course : Relation.ReflTransGen InTurn o o') : o'.issued = o.issued := by
  induction course with
  | refl => rfl
  | tail _ inTurn ih => rw [inTurn.works.issued, ih]

theorem length_issueAll (o : Office) (ops : List InstanceOp) :
    (o.issueAll ops).issued.length = o.issued.length + ops.length := by
  induction ops generalizing o with
  | nil => rfl
  | cons op rest ih =>
    change ((o.issue op).issueAll rest).issued.length = _
    rw [ih, issued_issue, List.length_append, List.length_singleton, List.length_cons]
    omega

theorem Settles.results (settles : Settles (o.issueAll ops) o') (sound : Sound i o)
    (resting : o.Resting) :
    (results o'.settled).Perm (results o.settled ++
      (List.range' o.issued.length ops.length).zip (LocalInstance.grants (o.self.requests ops).2)) ∧
    o'.self = (o.self.requests ops).1 := by
  have issued := sound.becomes (becomes_issueAll o ops)
  have after := issued.becomes (becomes_of_course settles.course)
  obtain ⟨perm, ending⟩ := outlook_of_course settles.course issued
  obtain ⟨begun, begunEnding⟩ := sound.outlook_issueAll resting ops
  obtain ⟨last, lastEnding⟩ := after.outlook_at_rest settles.rests
  constructor
  · rw [← last]
    exact perm.trans begun
  · rw [← lastEnding, ending, begunEnding]

theorem InSequence.becomes (sequence : InSequence o ops o') : Becomes o o' := by
  induction sequence with
  | done o => exact .here
  | next settles later ih =>
    exact .trans (.step .here (.comes (comes_issue _ _)))
      (.trans (becomes_of_course settles.course) ih)

theorem InSequence.results (sequence : InSequence o ops o') (sound : Sound i o)
    (resting : o.Resting) :
    (results o'.settled).Perm (results o.settled ++ (List.range' o.issued.length ops.length).zip
      (LocalInstance.grants (o.self.requestEach ops).2)) ∧
    o'.self = (o.self.requestEach ops).1 := by
  induction sequence with
  | done o => simp [LocalInstance.requestEach]
  | @next o mid last op rest settles later ih =>
    have single : Settles (o.issueAll [op]) mid := settles
    obtain ⟨perm, self⟩ := single.results sound resting
    have after := (sound.becomes (becomes_issueAll o [op])).becomes (becomes_of_course single.course)
    obtain ⟨perm', self'⟩ := ih after single.rests
    have count : mid.issued.length = o.issued.length + 1 := by
      rw [course_issued single.course, length_issueAll, List.length_singleton]
    rw [LocalInstance.requests_singleton] at perm self
    rw [LocalInstance.requestEach_cons, ← self]
    constructor
    · rw [count] at perm'
      refine perm'.trans ((perm.append_right _).trans ?_)
      simp [LocalInstance.grants, List.range'_succ]
    · exact self'

theorem Sound.numbers_nodup (sound : Sound i o) :
    (o.settled.map (·.asked.number)).Nodup := by
  have all : (o.requests.map (·.number)).Nodup := by
    rw [(sound.placed.map (·.number)).nodup_iff, sound.numbered]
    exact List.nodup_range
  rw [requests, List.map_append, List.map_append, List.map_append, List.append_assoc] at all
  simpa [Function.comp_def] using (List.nodup_append.mp all).1

theorem Sound.granted?_eq (sound : Sound i o) {number : Nat} {granted : Bool}
    (mem : (number, granted) ∈ results o.settled) : o.granted? number = some granted := by
  obtain ⟨s, settled, same⟩ := List.mem_map.mp mem
  cases same
  unfold granted?
  cases found : o.settled.find? (·.asked.number = s.asked.number) with
  | none => simpa using List.find?_eq_none.mp found s settled
  | some s' =>
    have number : s'.asked.number = s.asked.number := by simpa using List.find?_some found
    have one := List.inj_on_of_nodup_map sound.numbers_nodup (List.mem_of_find?_eq_some found)
      settled number
    rw [Option.map_some, one]

theorem mem_zip_range' (first : Nat) {k : Nat} {l : List Bool} {b : Bool} (found : l[k]? = some b) :
    (first + k, b) ∈ (List.range' first l.length).zip l := by
  obtain ⟨within, rfl⟩ := List.getElem?_eq_some_iff.mp found
  apply List.mem_iff_getElem.mpr
  exact ⟨k, by simpa using within, by simp⟩

theorem Sound.granted?_of_listed (sound : Sound i o) {before : List (Nat × Bool)} {l : List Bool}
    {first count : Nat} (counted : l.length = count)
    (listed : (results o.settled).Perm (before ++ (List.range' first count).zip l)) {k : Nat}
    {b : Bool} (found : l[k]? = some b) : o.granted? (first + k) = some b := by
  subst counted
  apply sound.granted?_eq
  apply listed.mem_iff.mpr
  exact List.mem_append_right _ (mem_zip_range' first found)

theorem Settles.granted? (settles : Settles (o.issueAll ops) o') (sound : Sound i o)
    (resting : o.Resting) {k : Nat} {b : Bool}
    (found : (LocalInstance.grants (o.self.requests ops).2)[k]? = some b) :
    o'.granted? (o.issued.length + k) = some b := by
  have after := (sound.becomes (becomes_issueAll o ops)).becomes (becomes_of_course settles.course)
  have counted : (LocalInstance.grants (o.self.requests ops).2).length = ops.length := by
    rw [LocalInstance.grants, List.length_map, LocalInstance.length_requests]
  exact after.granted?_of_listed counted (settles.results sound resting).1 found

theorem InSequence.granted? (sequence : InSequence o ops o') (sound : Sound i o)
    (resting : o.Resting) {k : Nat} {b : Bool}
    (found : (LocalInstance.grants (o.self.requestEach ops).2)[k]? = some b) :
    o'.granted? (o.issued.length + k) = some b := by
  have after := sound.becomes sequence.becomes
  have counted : (LocalInstance.grants (o.self.requestEach ops).2).length = ops.length := by
    rw [LocalInstance.grants, List.length_map, LocalInstance.length_requestEach]
  exact after.granted?_of_listed counted (sequence.results sound resting).1 found

end

/-- Whether requests are issued together or one after the other, all are done with in the end, the
instance is in the same state, and the same requests are granted but for those that ask again to
stop. -/
structure FaresAlike (o : Office) (ops : List InstanceOp) : Prop where
  together : ∃ t, Settles (o.issueAll ops) t
  sequence : ∃ s, InSequence o ops s
  state : ∀ t s, Settles (o.issueAll ops) t → InSequence o ops s → t.self = s.self
  alike : ∀ t s, Settles (o.issueAll ops) t → InSequence o ops s → ∀ k < ops.length,
    ¬ o.self.StopsAgain ops k → ∃ granted, t.granted? (o.issued.length + k) = some granted ∧
      s.granted? (o.issued.length + k) = some granted
  again : ∀ t s, Settles (o.issueAll ops) t → InSequence o ops s → ∀ k < ops.length,
    o.self.StopsAgain ops k → t.granted? (o.issued.length + k) = some false ∧
      s.granted? (o.issued.length + k) = some true

theorem sound_of_started {options : InstanceOptions} {i : LocalInstance}
    (started : LocalInstance.start options = .ok i) : Sound i (opened i) := by
  have within : options.key.instanceId < options.instances := by
    by_contra beyond
    have refused := (LocalInstance.start_refuses options).mpr (Nat.le_of_not_lt beyond)
    cases started.symm.trans refused
  rw [LocalInstance.eq_of_start started]
  exact sound_opened rfl within

theorem fares_alike {options : InstanceOptions} {i : LocalInstance}
    (started : LocalInstance.start options = .ok i) {o : Office} (becomes : Becomes (opened i) o)
    (resting : o.Resting) (ops : List InstanceOp) : FaresAlike o ops where
  together := exists_settles _
  sequence := exists_inSequence o ops
  state := by
    intro t s settles sequence
    have sound := (sound_of_started started).becomes becomes
    rw [(settles.results sound resting).2, (sequence.results sound resting).2,
      LocalInstance.requests_self]
  alike := by
    intro t s settles sequence k within other
    have sound := (sound_of_started started).becomes becomes
    have same := (LocalInstance.grants_requests o.self ops k within).2 other
    obtain ⟨granted, found⟩ := LocalInstance.exists_granted o.self ops within
    exact ⟨granted, settles.granted? sound resting found,
      sequence.granted? sound resting (same ▸ found)⟩
  again := by
    intro t s settles sequence k within again
    have sound := (sound_of_started started).becomes becomes
    obtain ⟨fails, granted⟩ := (LocalInstance.grants_requests o.self ops k within).1 again
    exact ⟨settles.granted? sound resting fails, sequence.granted? sound resting granted⟩

theorem opened_resting (i : LocalInstance) : (opened i).Resting := by
  intro o works
  cases works with
  | admits before line present room => simp [opened] at line
  | handles queue works goesOn => cases queue
  | stops queue works stops => cases queue
  | leaves stopped => cases stopped
  | turnsAway before line gone => cases gone

theorem second_alike : LocalInstance.start secondOfTwo = .ok second ∧
    Becomes (opened second) (opened second) ∧ (opened second).Resting ∧
    FaresAlike (opened second) [.command 1, .stop, .suspend, .stop] := by
  have started : LocalInstance.start secondOfTwo = .ok second := rfl
  have resting := opened_resting second
  exact ⟨started, .here, resting, fares_alike started .here resting _⟩

/-- Who asks an instance to stop that has just been asked to stop is not granted it. -/
theorem second_stop_fails : ∃ t s, Settles ((opened second).issueAll [.stop, .stop]) t ∧
    InSequence (opened second) [.stop, .stop] s ∧
    t.granted? 1 = some false ∧ s.granted? 1 = some true := by
  have started : LocalInstance.start secondOfTwo = .ok second := rfl
  have sound := sound_of_started started
  have resting := opened_resting second
  obtain ⟨t, settles⟩ := exists_settles ((opened second).issueAll [.stop, .stop])
  obtain ⟨s, sequence⟩ := exists_inSequence (opened second) [.stop, .stop]
  have fails : t.granted? (0 + 1) = some false := settles.granted? sound resting rfl
  have granted : s.granted? (0 + 1) = some true := sequence.granted? sound resting rfl
  exact ⟨t, s, settles, sequence, fails, granted⟩

end Office
end FlowRuntime
