import Mathlib.Data.List.Basic
import FlowRuntime.FanOut

/-!
What a fan-out comes to. Its participants are looked at one after the other, for the
first time when it begins, which is what starts them, and again whenever one of them or
its limit has fallen due. A participant keeps its seat among the others, so its outcome
goes back to its own key. We verify that a fan-out which is looked at in this way returns
what `bestEffort` says, when it says so, and that nothing a participant does has an effect
on what is reported of another.
-/
namespace FlowRuntime.FanOut
variable {κ : Type}

/-- What will become of a participant, counted from when it starts. -/
inductive Fate where
  | readyAfter (ms : Nat) (outcome : Except Failure Unit)
  | never

namespace Fate

def arrival : Fate → Arrival
  | .readyAfter ms outcome => ⟨some ms, true, outcome⟩
  | .never => .never

def due (limit : Option Nat) : Fate → Nat
  | .readyAfter ms _ => limit.elim ms (min ms)
  | .never => limit.getD 0

def verdict (limit : Option Nat) : Fate → Except Failure Unit
  | .readyAfter ms outcome =>
    limit.elim outcome fun l => if ms ≤ l then outcome else .error (.timedOut l)
  | .never => limit.elim (.ok ()) fun l => .error (.timedOut l)

def Ends (limit : Option Nat) (f : Fate) : Prop := limit = none → f ≠ .never

instance (limit : Option Nat) (f : Fate) : Decidable (f.Ends limit) :=
  match limit, f with
  | some _, _ => isTrue nofun
  | none, .readyAfter .. => isTrue nofun
  | none, .never => isFalse fun ends => ends rfl rfl

def outcomeBy (elapsed : Nat) : Fate → Option (Except Failure Unit)
  | .readyAfter ms outcome => if ms ≤ elapsed then some outcome else none
  | .never => none

end Fate

def arriving (items : List (κ × Fate)) : List (κ × Arrival) :=
  items.map fun i => (i.1, i.2.arrival)

/-! ## What is reported -/

def verdicts (limit : Option Nat) (items : List (κ × Fate)) : List (κ × Except Failure Unit) :=
  items.map fun i => (i.1, i.2.verdict limit)

def longest (limit : Option Nat) (items : List (κ × Fate)) : Nat :=
  (items.map fun i => i.2.due limit).foldr max 0

section
variable {wait : Nat → Nat} {limit : Option Nat} {items : List (κ × Fate)}

theorem settle_of_ends (exact : ∀ l ∈ limit, wait l = l) {f : Fate} (ends : f.Ends limit) :
    settle wait limit f.arrival = some (f.due limit, f.verdict limit) := by
  cases limit with
  | none =>
    cases f with
    | readyAfter ms outcome => rfl
    | never => exact absurd rfl (ends rfl)
  | some l =>
    have same : wait l = l := exact l rfl
    cases f with
    | readyAfter ms outcome =>
      by_cases early : ms ≤ l
      · have intime : ms < l ∨ ms = l := Nat.lt_or_eq_of_le early
        simp [settle, inTime, Fate.arrival, Fate.due, Fate.verdict, same, early, intime]
      · have late : ¬ (ms < l ∨ ms = l) := by omega
        have least : min ms l = l := by omega
        simp [settle, inTime, Fate.arrival, Fate.due, Fate.verdict, same, early, late, least]
    | never => simp [settle, Fate.arrival, Arrival.never, Fate.due, Fate.verdict, same]

theorem settle_of_endless {f : Fate} (endless : ¬ f.Ends limit) :
    settle wait limit f.arrival = none := by
  cases limit with
  | none =>
    cases f with
    | readyAfter ms outcome => exact absurd nofun endless
    | never => rfl
  | some l => exact absurd nofun endless

theorem settleAll_of_ends (exact : ∀ l ∈ limit, wait l = l) (ends : ∀ i ∈ items, i.2.Ends limit) :
    settleAll wait limit (arriving items) =
      some (items.map fun i => (i.1, i.2.due limit, i.2.verdict limit)) := by
  induction items with
  | nil => rfl
  | cons i rest ih =>
    obtain ⟨first, others⟩ := List.forall_mem_cons.mp ends
    have later := ih others
    rw [arriving] at later
    simp only [arriving, List.map_cons, settleAll, settle_of_ends exact first, later]

theorem settleAll_of_endless {i : κ × Fate} (mem : i ∈ items) (endless : ¬ i.2.Ends limit) :
    settleAll wait limit (arriving items) = none := by
  induction items with
  | nil => cases mem
  | cons first rest ih =>
    simp only [arriving, List.map_cons, settleAll]
    rcases List.mem_cons.mp mem with rfl | later
    · rw [settle_of_endless endless]
    · have stuck := ih later
      rw [arriving] at stuck
      rw [stuck]
      split <;> simp_all

theorem bestEffortBy_of_ends (exact : ∀ l ∈ limit, wait l = l)
    (ends : ∀ i ∈ items, i.2.Ends limit) :
    bestEffortBy wait limit (arriving items) =
      some (report (verdicts limit items), longest limit items) := by
  simp only [bestEffortBy, settleAll_of_ends exact ends, Option.map_some, List.map_map]
  simp [verdicts, longest, duration, List.foldr_map, Function.comp_def]

theorem bestEffortBy_of_endless {i : κ × Fate} (mem : i ∈ items) (endless : ¬ i.2.Ends limit) :
    bestEffortBy wait limit (arriving items) = none := by
  rw [bestEffortBy, settleAll_of_endless mem endless]
  rfl

end

/-! ## Looking at the participants -/

/-- A participant, when it was first looked at, and how it was done with. -/
structure Seat where
  fate : Fate
  since : Option Nat
  outcome : Option (Except Failure Unit)

def overdue (wait : Nat → Nat) (limit : Option Nat) (elapsed : Nat) :
    Option (Except Failure Unit) :=
  limit.bind fun l => if wait l ≤ elapsed then some (.error (.timedOut l)) else none

/-- The first look starts a participant, and with it its limit. A look asks for its own outcome first. -/
def Seat.look (wait : Nat → Nat) (limit : Option Nat) (now : Nat) (s : Seat) : Seat :=
  if s.outcome.isSome then s
  else
    let since := s.since.getD now
    ⟨s.fate, some since,
      (s.fate.outcomeBy (now - since)).or (overdue wait limit (now - since))⟩

def seated (items : List (κ × Fate)) : List Seat := items.map fun i => ⟨i.2, none, none⟩

/-- Looks at everybody at each of these times until everybody is done with. -/
def join (wait : Nat → Nat) (limit : Option Nat) (seats : List Seat) :
    List Nat → Option (List Seat × Nat)
  | [] => none
  | now :: later =>
    let looked := seats.map (Seat.look wait limit now)
    if looked.all (·.outcome.isSome) then some (looked, now) else join wait limit looked later

/-- The keys are put aside, and go with the outcomes of the seats in the end. -/
def gather (wait : Nat → Nat) (limit : Option Nat) (items : List (κ × Fate)) (looks : List Nat) :
    Option (Report κ × Nat) :=
  (join wait limit (seated items) looks).map fun joined =>
    (report ((items.map (·.1)).zip (joined.1.filterMap (·.outcome))), joined.2)

/-- How the seat of a participant that was started at `start` should be at `now`. -/
def Fate.seat (limit : Option Nat) (start now : Nat) (f : Fate) : Seat :=
  ⟨f, some start,
    if f.Ends limit ∧ start + f.due limit ≤ now then some (f.verdict limit) else none⟩

/-- Looked at first when it starts, then in order, and each time that somebody falls due. -/
structure Attended (limit : Option Nat) (items : List (κ × Fate)) (start : Nat)
    (later : List Nat) : Prop where
  ordered : (start :: later).Pairwise (· ≤ ·)
  due : ∀ i ∈ items, start + i.2.due limit ∈ start :: later

theorem exists_attended (limit : Option Nat) (items : List (κ × Fate)) (start : Nat) :
    ∃ later, Attended limit items start later := by
  let dues := items.map fun i => start + i.2.due limit
  refine ⟨dues.mergeSort (fun a b => decide (a ≤ b)), ?_, ?_⟩
  · apply List.pairwise_cons.mpr
    constructor
    · intro t mem
      obtain ⟨i, _, rfl⟩ := List.mem_map.mp (List.mem_mergeSort.mp mem)
      exact Nat.le_add_right start _
    · have sorted : (dues.mergeSort fun a b => decide (a ≤ b)).Pairwise
          (fun a b => decide (a ≤ b)) :=
        List.pairwise_mergeSort (by simpa using fun a b c => Nat.le_trans)
          (by simpa using Nat.le_total) dues
      simpa using sorted
  · intro i mem
    exact List.mem_cons_of_mem _ (List.mem_mergeSort.mpr (List.mem_map_of_mem mem))

section
variable {wait : Nat → Nat} {limit : Option Nat} {items : List (κ × Fate)} {f : Fate}

theorem outcome_of_le (exact : ∀ l ∈ limit, wait l = l) {elapsed : Nat}
    (soon : f.Ends limit → elapsed ≤ f.due limit) :
    (f.outcomeBy elapsed).or (overdue wait limit elapsed) =
      if f.Ends limit ∧ f.due limit ≤ elapsed then some (f.verdict limit) else none := by
  cases limit with
  | none =>
    cases f with
    | readyAfter ms outcome =>
      have ends : (Fate.readyAfter ms outcome).Ends none := nofun
      simp [Fate.outcomeBy, overdue, Fate.due, Fate.verdict, ends]
    | never => simp [Fate.outcomeBy, overdue, Fate.Ends]
  | some l =>
    have same : wait l = l := exact l rfl
    have ends : f.Ends (some l) := nofun
    have soon := soon ends
    cases f with
    | readyAfter ms outcome =>
      simp only [Fate.due, Option.elim_some] at soon
      by_cases early : ms ≤ l
      · have least : min ms l = ms := Nat.min_eq_left early
        by_cases ready : ms ≤ elapsed
        · simp [Fate.outcomeBy, overdue, Fate.due, Fate.verdict, ends, early, ready]
        · have before : ¬ l ≤ elapsed := by omega
          simp [Fate.outcomeBy, overdue, Fate.due, ends, same, least, ready, before]
      · have least : min ms l = l := by omega
        have unready : ¬ ms ≤ elapsed := by omega
        simp [Fate.outcomeBy, overdue, Fate.due, Fate.verdict, ends, same, least, early, unready]
    | never => simp [Fate.outcomeBy, overdue, Fate.due, Fate.verdict, ends, same]

theorem look_fresh (exact : ∀ l ∈ limit, wait l = l) (f : Fate) (start : Nat) :
    Seat.look wait limit start ⟨f, none, none⟩ = f.seat limit start start := by
  have reached : f.due limit ≤ 0 ↔ start + f.due limit ≤ start := by omega
  simp only [Seat.look, Fate.seat, Option.isSome_none, Option.getD_none, Nat.sub_self]
  rw [outcome_of_le exact fun _ => Nat.zero_le _]
  simp only [reached, Bool.false_eq_true, ↓reduceIte]

/-- Nobody is overlooked, if nobody falls due between two looks. -/
theorem look_seat (exact : ∀ l ∈ limit, wait l = l) {start now next : Nat} (begun : start ≤ now)
    (later : now ≤ next) (seen : start + f.due limit ≤ now ∨ next ≤ start + f.due limit) :
    (f.seat limit start now).look wait limit next = f.seat limit start next := by
  by_cases done : f.Ends limit ∧ start + f.due limit ≤ now
  · have still : f.Ends limit ∧ start + f.due limit ≤ next := ⟨done.1, by omega⟩
    simp [Seat.look, Fate.seat, done, still]
  · have soon : f.Ends limit → next - start ≤ f.due limit := by
      intro ends
      have unseen : ¬ start + f.due limit ≤ now := fun seen => done ⟨ends, seen⟩
      omega
    have reached : f.due limit ≤ next - start ↔ start + f.due limit ≤ next := by omega
    simp only [Seat.look, Fate.seat, if_neg done, Option.isSome_none, Option.getD_some]
    rw [outcome_of_le exact soon]
    simp only [reached, Bool.false_eq_true, ↓reduceIte]

theorem le_longest {i : κ × Fate} (mem : i ∈ items) : i.2.due limit ≤ longest limit items := by
  induction items with
  | nil => cases mem
  | cons first rest ih =>
    rw [longest, List.map_cons, List.foldr_cons]
    rcases List.mem_cons.mp mem with rfl | later
    · exact Nat.le_max_left _ _
    · exact Nat.le_trans (ih later) (Nat.le_max_right _ _)

theorem longest_attained (some_last : 0 < longest limit items) :
    ∃ i ∈ items, i.2.due limit = longest limit items := by
  induction items with
  | nil => cases some_last
  | cons first rest ih =>
    by_cases head : longest limit rest ≤ first.2.due limit
    · exact ⟨first, List.mem_cons_self, (Nat.max_eq_left head).symm⟩
    · have tail : longest limit (first :: rest) = longest limit rest :=
        Nat.max_eq_right (Nat.le_of_not_le head)
      obtain ⟨i, mem, last⟩ := ih (by omega)
      exact ⟨i, List.mem_cons_of_mem _ mem, last.trans tail.symm⟩

theorem longest_le {bound : Nat} (within : ∀ i ∈ items, i.2.due limit ≤ bound) :
    longest limit items ≤ bound := by
  induction items with
  | nil => exact Nat.zero_le _
  | cons first rest ih =>
    obtain ⟨head, tail⟩ := List.forall_mem_cons.mp within
    exact Nat.max_le.mpr ⟨head, ih tail⟩

def seatsAt (limit : Option Nat) (start now : Nat) (items : List (κ × Fate)) : List Seat :=
  items.map fun i => i.2.seat limit start now

theorem seatsAt_done (ends : ∀ i ∈ items, i.2.Ends limit) {start now : Nat} (begun : start ≤ now) :
    (seatsAt limit start now items).all (·.outcome.isSome) ↔ start + longest limit items ≤ now := by
  constructor
  · intro done
    have within : longest limit items ≤ now - start := by
      apply longest_le
      intro i mem
      have settled := List.all_eq_true.mp done _ (List.mem_map_of_mem mem)
      simp [Fate.seat, ends i mem] at settled
      omega
    omega
  · intro reached
    apply List.all_eq_true.mpr
    intro s mem
    obtain ⟨i, listed, rfl⟩ := List.mem_map.mp mem
    have due : i.2.due limit ≤ longest limit items := le_longest listed
    have settled : start + i.2.due limit ≤ now := by omega
    simp [Fate.seat, ends i listed, settled]

theorem seatsAt_outcomes (ends : ∀ i ∈ items, i.2.Ends limit) {start now : Nat}
    (done : start + longest limit items ≤ now) :
    (seatsAt limit start now items).filterMap (·.outcome) = items.map (·.2.verdict limit) := by
  rw [seatsAt, List.filterMap_map, ← List.filterMap_eq_map]
  apply List.filterMap_congr
  intro i mem
  have reached : start + i.2.due limit ≤ now :=
    Nat.le_trans (Nat.add_le_add_left (le_longest mem) start) done
  simp [Fate.seat, ends i mem, reached]

theorem seatsAt_look (exact : ∀ l ∈ limit, wait l = l) {start now next : Nat} (begun : start ≤ now)
    (later : now ≤ next)
    (seen : ∀ i ∈ items, start + i.2.due limit ≤ now ∨ next ≤ start + i.2.due limit) :
    (seatsAt limit start now items).map (Seat.look wait limit next) =
      seatsAt limit start next items := by
  rw [seatsAt, List.map_map]
  apply List.map_congr_left
  intro i mem
  exact look_seat exact begun later (seen i mem)

theorem join_seatsAt (exact : ∀ l ∈ limit, wait l = l) (ends : ∀ i ∈ items, i.2.Ends limit)
    {start now : Nat} {later : List Nat} (begun : start ≤ now)
    (waited : now < start + longest limit items) (ordered : (now :: later).Pairwise (· ≤ ·))
    (due : ∀ i ∈ items, now < start + i.2.due limit → start + i.2.due limit ∈ later)
    (last : start + longest limit items ∈ later) :
    join wait limit (seatsAt limit start now items) later =
      some (seatsAt limit start (start + longest limit items) items,
        start + longest limit items) := by
  induction later generalizing now with
  | nil => cases last
  | cons next rest ih =>
    obtain ⟨after, ordered⟩ := List.pairwise_cons.mp ordered
    have soonest := (List.pairwise_cons.mp ordered).1
    have forward : now ≤ next := after next List.mem_cons_self
    have notBefore : ∀ t ∈ next :: rest, next ≤ t := by
      intro t mem
      rcases List.mem_cons.mp mem with rfl | mem
      · exact Nat.le_refl _
      · exact soonest t mem
    have seen : ∀ i ∈ items, start + i.2.due limit ≤ now ∨ next ≤ start + i.2.due limit := by
      intro i mem
      by_cases before : start + i.2.due limit ≤ now
      · exact .inl before
      · exact .inr (notBefore _ (due i mem (Nat.lt_of_not_le before)))
    rw [join, seatsAt_look exact begun forward seen]
    have notYet : next ≤ start + longest limit items := notBefore _ last
    have done := seatsAt_done ends (Nat.le_trans begun forward)
    by_cases reached : start + longest limit items ≤ next
    · have here : next = start + longest limit items := Nat.le_antisymm notYet reached
      subst here
      rw [if_pos (done.mpr reached)]
    · have waited : next < start + longest limit items := Nat.lt_of_not_le reached
      rw [if_neg (fun all => reached (done.mp all))]
      apply ih (Nat.le_trans begun forward) waited ordered
      · intro i mem coming
        rcases List.mem_cons.mp (due i mem (by omega)) with here | coming
        · omega
        · exact coming
      · rcases List.mem_cons.mp last with here | coming
        · omega
        · exact coming

theorem join_attended (exact : ∀ l ∈ limit, wait l = l) (ends : ∀ i ∈ items, i.2.Ends limit)
    {start : Nat} {later : List Nat} (attended : Attended limit items start later) :
    join wait limit (seated items) (start :: later) =
      some (seatsAt limit start (start + longest limit items) items,
        start + longest limit items) := by
  have first : (seated items).map (Seat.look wait limit start) =
      seatsAt limit start start items := by
    rw [seated, List.map_map]
    apply List.map_congr_left
    intro i _
    exact look_fresh exact i.2 start
  have done := seatsAt_done ends (Nat.le_refl start)
  rw [join, first]
  by_cases prompt : longest limit items = 0
  · rw [if_pos (done.mpr (by omega)), prompt]
    rfl
  · obtain ⟨i, mem, last⟩ := longest_attained (Nat.pos_of_ne_zero prompt)
    have waited : start < start + longest limit items := by omega
    have coming : ∀ i ∈ items, start < start + i.2.due limit → start + i.2.due limit ∈ later := by
      intro i mem after
      rcases List.mem_cons.mp (attended.due i mem) with here | coming
      · omega
      · exact coming
    rw [if_neg (fun all => Nat.not_le_of_lt waited (done.mp all))]
    apply join_seatsAt exact ends (Nat.le_refl start) waited attended.ordered coming
    rw [← last]
    exact coming i mem (by omega)

theorem gather_attended (exact : ∀ l ∈ limit, wait l = l) (ends : ∀ i ∈ items, i.2.Ends limit)
    {start : Nat} {later : List Nat} (attended : Attended limit items start later) :
    gather wait limit items (start :: later) =
      some (report (verdicts limit items), start + longest limit items) := by
  rw [gather, join_attended exact ends attended, Option.map_some]
  rw [seatsAt_outcomes ends (Nat.le_refl _), List.zip_map', verdicts]

theorem join_endless {seats : List Seat} {since : Option Nat}
    (waits : ⟨.never, since, none⟩ ∈ seats) (looks : List Nat) :
    join wait none seats looks = none := by
  induction looks generalizing seats since with
  | nil => rfl
  | cons now later ih =>
    have still := List.mem_map_of_mem (f := Seat.look wait none now) waits
    rw [join, if_neg]
    · exact ih still
    · intro all
      have done := List.all_eq_true.mp all _ still
      cases done

theorem gather_endless {i : κ × Fate} (mem : i ∈ items) (endless : ¬ i.2.Ends limit)
    (looks : List Nat) : gather wait limit items looks = none := by
  obtain ⟨nolimit, waits⟩ : limit = none ∧ i.2 = .never := by
    simpa [Fate.Ends] using endless
  subst nolimit
  have seat : ⟨.never, none, none⟩ ∈ seated items := by
    rw [← waits]
    exact List.mem_map_of_mem mem
  rw [gather, join_endless seat]
  rfl

end

/-! ## The report -/

section
variable {limit : Option Nat} {f : Fate}

theorem verdict_ok_iff (ends : f.Ends limit) :
    f.verdict limit = .ok () ↔ ∃ t, f = .readyAfter t (.ok ()) ∧ ∀ l ∈ limit, t ≤ l := by
  cases limit with
  | none =>
    cases f with
    | readyAfter ms outcome => simp [Fate.verdict]
    | never => exact absurd rfl (ends rfl)
  | some l =>
    cases f with
    | readyAfter ms outcome => by_cases early : ms ≤ l <;> simp [Fate.verdict, early]
    | never => simp [Fate.verdict]

theorem verdict_error_iff (ends : f.Ends limit) (e : Failure) :
    f.verdict limit = .error e ↔
      (∃ t, f = .readyAfter t (.error e) ∧ ∀ l ∈ limit, t ≤ l) ∨
      ∃ l ∈ limit, e = .timedOut l ∧ ∀ t outcome, f = .readyAfter t outcome → l < t := by
  cases limit with
  | none =>
    cases f with
    | readyAfter ms outcome => simp [Fate.verdict]
    | never => exact absurd rfl (ends rfl)
  | some l =>
    cases f with
    | readyAfter ms outcome =>
      by_cases early : ms ≤ l
      · have unlate : ¬ l < ms := Nat.not_lt_of_le early
        simp [Fate.verdict, early, unlate]
      · have late : l < ms := Nat.lt_of_not_le early
        simp [Fate.verdict, early, late, eq_comm]
    | never => simp [Fate.verdict, eq_comm]

theorem report_append (a b : List (κ × Except Failure Unit)) :
    report (a ++ b) = ⟨(report a).succeeded ++ (report b).succeeded,
      (report a).failed ++ (report b).failed⟩ := by
  simp [report]

theorem report_perm (outcomes : List (κ × Except Failure Unit)) :
    ((report outcomes).succeeded ++ (report outcomes).failed.map (·.1)).Perm
      (outcomes.map (·.1)) := by
  induction outcomes with
  | nil => exact .nil
  | cons o rest ih =>
    obtain ⟨key, outcome⟩ := o
    cases outcome with
    | ok _ => exact ih.cons key
    | error e => exact List.perm_middle.trans (ih.cons key)

theorem report_succeeded_sublist (outcomes : List (κ × Except Failure Unit)) :
    (report outcomes).succeeded.Sublist (outcomes.map (·.1)) := by
  induction outcomes with
  | nil => exact .slnil
  | cons o rest ih =>
    obtain ⟨key, outcome⟩ := o
    cases outcome with
    | ok _ => exact ih.cons_cons key
    | error e => exact ih.cons key

theorem report_failed_sublist (outcomes : List (κ × Except Failure Unit)) :
    ((report outcomes).failed.map (·.1)).Sublist (outcomes.map (·.1)) := by
  induction outcomes with
  | nil => exact .slnil
  | cons o rest ih =>
    obtain ⟨key, outcome⟩ := o
    cases outcome with
    | ok _ => exact ih.cons key
    | error e => exact ih.cons_cons key

end

/-! ## A timer of any kind -/

section
variable (wait : Nat → Nat) (l : Nat)

theorem settle_within (a : Arrival) : ∃ s, settle wait (some l) a = some s ∧ s.1 ≤ wait l := by
  obtain ⟨readyAt, prompt, outcome⟩ := a
  cases readyAt with
  | none => exact ⟨_, rfl, Nat.le_refl _⟩
  | some t =>
    by_cases intime : inTime wait (some l) ⟨some t, prompt, outcome⟩ t = true
    · refine ⟨_, if_pos intime, ?_⟩
      simp only [inTime, Bool.or_eq_true, Bool.and_eq_true, decide_eq_true_eq] at intime
      omega
    · exact ⟨_, if_neg intime, Nat.le_refl _⟩

theorem settleAll_within (items : List (κ × Arrival)) :
    ∃ settled, settleAll wait (some l) items = some settled ∧ duration settled ≤ wait l ∧
      settled.map (·.1) = items.map (·.1) := by
  induction items with
  | nil => exact ⟨[], rfl, Nat.zero_le _, rfl⟩
  | cons i rest ih =>
    obtain ⟨key, a⟩ := i
    obtain ⟨s, first, soon⟩ := settle_within wait l a
    obtain ⟨settled, later, within, keys⟩ := ih
    refine ⟨(key, s) :: settled, by simp only [settleAll, first, later], ?_, ?_⟩
    · rw [duration] at within
      exact Nat.max_le.mpr ⟨soon, within⟩
    · rw [List.map_cons, List.map_cons, keys]

theorem bestEffortBy_within (items : List (κ × Arrival)) :
    ∃ r ms, bestEffortBy wait (some l) items = some (r, ms) ∧ ms ≤ wait l ∧
      (r.succeeded ++ r.failed.map (·.1)).Perm (items.map (·.1)) := by
  obtain ⟨settled, all, within, keys⟩ := settleAll_within wait l items
  refine ⟨_, _, by rw [bestEffortBy, all, Option.map_some], within, ?_⟩
  have told := report_perm (settled.map fun s => (s.1, s.2.2))
  rw [List.map_map] at told
  rw [← keys]
  exact told

end

/-- What a fan-out reports that has returned after so many milliseconds. -/
structure Reports (limit : Option Nat) (items : List (κ × Fate)) (r : Report κ) (ms : Nat) :
    Prop where
  told : r = report (verdicts limit items)
  once : (r.succeeded ++ r.failed.map (·.1)).Perm (items.map (·.1))
  succeeded_ordered : r.succeeded.Sublist (items.map (·.1))
  failed_ordered : (r.failed.map (·.1)).Sublist (items.map (·.1))
  succeeds : ∀ i ∈ items, i.2.verdict limit = .ok () ↔
    ∃ t, i.2 = .readyAfter t (.ok ()) ∧ ∀ l ∈ limit, t ≤ l
  fails : ∀ i ∈ items, ∀ e, i.2.verdict limit = .error e ↔
    (∃ t, i.2 = .readyAfter t (.error e) ∧ ∀ l ∈ limit, t ≤ l) ∨
    ∃ l ∈ limit, e = .timedOut l ∧ ∀ t outcome, i.2 = .readyAfter t outcome → l < t
  lasted : ms = longest limit items

structure FansOut (wait : Nat → Nat) (limit : Option Nat) (items : List (κ × Fate)) : Prop where
  started : ∀ start, ∀ s ∈ (seated items).map (Seat.look wait limit start), s.since = some start
  returns : (bestEffortBy wait limit (arriving items)).isSome ↔
    (limit = none → ∀ i ∈ items, i.2 ≠ .never)
  attended : ∀ start, ∃ later, Attended limit items start later
  gathered : ∀ start later, Attended limit items start later →
    gather wait limit items (start :: later) =
      (bestEffortBy wait limit (arriving items)).map fun done => (done.1, start + done.2)
  endless : bestEffortBy wait limit (arriving items) = none →
    ∀ looks, gather wait limit items looks = none
  reports : ∀ r ms, bestEffortBy wait limit (arriving items) = some (r, ms) →
    Reports limit items r ms
  independent : ∀ before i after, items = before ++ i :: after → ∃ earlier later : Report κ,
    ∀ j r ms, bestEffortBy wait limit (arriving (before ++ j :: after)) = some (r, ms) →
      r.succeeded = earlier.succeeded ++ (report [(j.1, j.2.verdict limit)]).succeeded
        ++ later.succeeded ∧
      r.failed = earlier.failed ++ (report [(j.1, j.2.verdict limit)]).failed ++ later.failed

section
variable {wait : Nat → Nat} {limit : Option Nat} {items : List (κ × Fate)}

theorem ends_or_endless (limit : Option Nat) (items : List (κ × Fate)) :
    (∀ i ∈ items, i.2.Ends limit) ∨ ∃ i ∈ items, ¬ i.2.Ends limit := by
  by_cases ends : ∀ i ∈ items, i.2.Ends limit
  · exact .inl ends
  · exact .inr (by simpa using ends)

theorem ends_of_returned {done : Report κ × Nat}
    (returned : bestEffortBy wait limit (arriving items) = some done) :
    ∀ i ∈ items, i.2.Ends limit := by
  rcases ends_or_endless limit items with ends | ⟨i, mem, endless⟩
  · exact ends
  · rw [bestEffortBy_of_endless mem endless] at returned
    cases returned

theorem reports_of_returned (exact : ∀ l ∈ limit, wait l = l) {r : Report κ} {ms : Nat}
    (returned : bestEffortBy wait limit (arriving items) = some (r, ms)) :
    Reports limit items r ms := by
  have ends := ends_of_returned returned
  rw [bestEffortBy_of_ends exact ends] at returned
  cases returned
  have keys : (verdicts limit items).map (·.1) = items.map (·.1) := by simp [verdicts]
  refine ⟨rfl, ?_, ?_, ?_, ?_, ?_, rfl⟩
  · rw [← keys]
    exact report_perm _
  · rw [← keys]
    exact report_succeeded_sublist _
  · rw [← keys]
    exact report_failed_sublist _
  · exact fun i mem => verdict_ok_iff (ends i mem)
  · exact fun i mem => verdict_error_iff (ends i mem)

theorem fansOut (exact : ∀ l ∈ limit, wait l = l) (items : List (κ × Fate)) :
    FansOut wait limit items where
  started := by
    intro start s mem
    rw [seated, List.map_map] at mem
    obtain ⟨i, _, rfl⟩ := List.mem_map.mp mem
    rfl
  returns := by
    rcases ends_or_endless limit items with ends | ⟨i, mem, endless⟩
    · rw [bestEffortBy_of_ends exact ends]
      exact ⟨fun _ nolimit i mem => ends i mem nolimit, fun _ => rfl⟩
    · rw [bestEffortBy_of_endless mem endless]
      exact ⟨nofun, fun ready => absurd (fun nolimit => ready nolimit i mem) endless⟩
  attended := exists_attended limit items
  gathered := by
    intro start later attended
    rcases ends_or_endless limit items with ends | ⟨i, mem, endless⟩
    · rw [bestEffortBy_of_ends exact ends, gather_attended exact ends attended]
      rfl
    · rw [bestEffortBy_of_endless mem endless, gather_endless mem endless]
      rfl
  endless := by
    intro unreturned looks
    rcases ends_or_endless limit items with ends | ⟨i, mem, endless⟩
    · rw [bestEffortBy_of_ends exact ends] at unreturned
      cases unreturned
    · exact gather_endless mem endless looks
  reports := fun r ms returned => reports_of_returned exact returned
  independent := by
    intro before _ after _
    refine ⟨report (verdicts limit before), report (verdicts limit after), ?_⟩
    intro j r ms returned
    have told := (reports_of_returned exact returned).told
    have split : verdicts limit (before ++ j :: after) =
        verdicts limit before ++ [(j.1, j.2.verdict limit)] ++ verdicts limit after := by
      simp [verdicts]
    rw [split, report_append, report_append] at told
    rw [told]
    exact ⟨rfl, rfl⟩

end

def mixedFates : List (String × Fate) :=
  [("quick", .readyAfter 5 (.ok ())), ("stuck", .never),
    ("twice", .readyAfter 20 (.error .instanceGone)),
    ("twice", .readyAfter 21 (.error .instanceGone))]

example : bestEffort (some 20) (arriving mixedFates) =
    some (⟨["quick"], [("stuck", .timedOut 20), ("twice", .instanceGone),
      ("twice", .timedOut 20)]⟩, 20) := by decide

theorem mixedFates_fansOut : (∀ l ∈ some 20, waitFor l = l) ∧
    FansOut waitFor (some 20) mixedFates := by
  have exact : ∀ l ∈ some 20, waitFor l = l := by simp [waitFor, longestWait]
  exact ⟨exact, fansOut exact mixedFates⟩

end FlowRuntime.FanOut
