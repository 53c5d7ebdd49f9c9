import Mathlib.Data.ENat.Basic
import FlowRuntime.Retry

/-!
How often an operation is tried. Whoever retries keeps two counters of 32 bits: the
backoff counts the delays that it handed out since it was reset, and the loop numbers
its attempts. We verify that neither overflows and that both together make the attempts
of `supply`; that these are one more than there are failures, up to what the policy
allows; and that a backoff hands out one delay less than that between two resets.
-/
namespace FlowRuntime

/-- How many attempts of one operation a policy allows: at least one is made. -/
def RetryPolicy.most (p : RetryPolicy) : Nat := max 1 p.maxAttempts

theorem RetryPolicy.left_start (p : RetryPolicy) : (Backoff.start p).left + 1 = p.most := by
  simp only [Backoff.start, most]
  omega

theorem Backoff.start_eq (p : RetryPolicy) : Backoff.start p = ⟨p, p.most - 1⟩ := by
  rw [← p.left_start]
  rfl

def nextCount? (n : UInt32) : Option UInt32 :=
  if n.toNat + 1 < UInt32.size then some (n + 1) else none

theorem nextCount?_of_small {n : UInt32} (small : n.toNat + 1 < UInt32.size) :
    nextCount? n = some (n + 1) ∧ (n + 1).toNat = n.toNat + 1 := by
  refine ⟨if_pos small, ?_⟩
  rw [UInt32.toNat_add]
  exact Nat.mod_eq_of_lt small

/-- A backoff as it is counted: not by the delays that are left, but by those handed out. -/
structure CountedBackoff where
  delay : Nat
  maxAttempts : UInt32
  retries : UInt32

inductive Backoff.Turn where
  | next
  | reset
  deriving DecidableEq

namespace CountedBackoff

def start (delay : Nat) (maxAttempts : UInt32) : CountedBackoff := ⟨delay, maxAttempts, 0⟩

def reset (b : CountedBackoff) : CountedBackoff := { b with retries := 0 }

/-- The delay it hands out, if any, and how it stands then; nothing if its counter overflows. -/
def next? (b : CountedBackoff) : Option (Option Nat × CountedBackoff) :=
  (nextCount? b.retries).map fun retries =>
    if b.maxAttempts ≤ retries then (none, b) else (some b.delay, { b with retries })

def turn? (b : CountedBackoff) : Backoff.Turn → Option CountedBackoff
  | .next => b.next?.map (·.2)
  | .reset => some b.reset

def policy (b : CountedBackoff) : RetryPolicy := ⟨b.delay, b.maxAttempts.toNat⟩

def spare (b : CountedBackoff) : Nat := b.maxAttempts.toNat - b.retries.toNat

theorem spare_of_next {b rest : CountedBackoff} {delay : Nat}
    (handed : b.next? = some (some delay, rest)) : rest.spare < b.spare := by
  unfold next? nextCount? at handed
  split at handed
  · next small =>
    have one := (nextCount?_of_small small).2
    rw [Option.map_some] at handed
    split at handed
    · cases handed
    · next more =>
      cases handed
      rw [UInt32.le_iff_toNat_le] at more
      simp only [spare]
      omega
  · cases handed

/-- So many delays are left to hand out before the policy's attempts are spent. -/
def Leaves (b : CountedBackoff) (left : Nat) : Prop := b.retries.toNat + left + 1 = b.policy.most

theorem leaves_reset (b : CountedBackoff) : b.reset.Leaves (b.policy.most - 1) := by
  have least : 1 ≤ b.policy.most := Nat.le_max_left _ _
  simp only [Leaves, reset, UInt32.toNat_zero]
  change 0 + (b.policy.most - 1) + 1 = b.policy.most
  omega

theorem leaves_start (delay : Nat) (maxAttempts : UInt32) :
    (start delay maxAttempts).Leaves ((start delay maxAttempts).policy.most - 1) :=
  leaves_reset (start delay maxAttempts)

section
variable {b : CountedBackoff} {left : Nat}

theorem Leaves.small (leaves : b.Leaves left) : b.retries.toNat + 1 < UInt32.size := by
  have bound := b.maxAttempts.toNat_lt_size
  have room : 1 < UInt32.size := by decide
  simp only [Leaves, policy, RetryPolicy.most] at leaves
  omega

theorem Leaves.next?_spent (leaves : b.Leaves 0) : b.next? = some (none, b) := by
  obtain ⟨counted, one⟩ := nextCount?_of_small leaves.small
  simp only [Leaves, policy, RetryPolicy.most] at leaves
  have spent : b.maxAttempts ≤ b.retries + 1 := by
    rw [UInt32.le_iff_toNat_le]
    omega
  simp [next?, counted, spent]

theorem Leaves.next?_handed (leaves : b.Leaves (left + 1)) :
    b.next? = some (some b.delay, { b with retries := b.retries + 1 }) := by
  obtain ⟨counted, one⟩ := nextCount?_of_small leaves.small
  simp only [Leaves, policy, RetryPolicy.most] at leaves
  have more : ¬ b.maxAttempts ≤ b.retries + 1 := by
    rw [UInt32.le_iff_toNat_le]
    omega
  simp [next?, counted, more]

theorem Leaves.raised (leaves : b.Leaves (left + 1)) :
    Leaves { b with retries := b.retries + 1 } left := by
  have one := (nextCount?_of_small leaves.small).2
  simp only [Leaves, policy] at leaves ⊢
  omega

end

def after (b : CountedBackoff) : List Backoff.Turn → Option CountedBackoff
  | [] => some b
  | turn :: rest => (b.turn? turn).bind (·.after rest)

end CountedBackoff

/-! ## Delays between two resets -/

def Backoff.turn (b : Backoff) : Turn → Backoff
  | .next => (b.next?.map (·.2)).getD b
  | .reset => b.reset

def Backoff.after (b : Backoff) : List Turn → Backoff
  | [] => b
  | turn :: rest => (b.turn turn).after rest

/-- How often a delay was asked for since the last reset, if it had been asked for `n` times before. -/
def askedSince (n : Nat) : List Backoff.Turn → Nat
  | [] => n
  | .next :: rest => askedSince (n + 1) rest
  | .reset :: rest => askedSince 0 rest

/-- Either way of counting comes to the same, and neither overflows. -/
theorem CountedBackoff.after_leaves {b : CountedBackoff} {n : Nat}
    (leaves : b.Leaves (b.policy.most - 1 - n)) (turns : List Backoff.Turn) :
    ∃ b', b.after turns = some b' ∧ b'.policy = b.policy ∧
      b'.Leaves (b.policy.most - 1 - askedSince n turns) ∧
      (Backoff.mk b.policy (b.policy.most - 1 - n)).after turns =
        ⟨b.policy, b.policy.most - 1 - askedSince n turns⟩ := by
  induction turns generalizing b n with
  | nil => exact ⟨b, rfl, rfl, leaves, rfl⟩
  | cons turn rest ih =>
    cases turn with
    | reset =>
      obtain ⟨b', there, same, left, running⟩ := ih (b := b.reset) (n := 0) b.leaves_reset
      have restarts := congrArg (Backoff.after · rest) (Backoff.start_eq b.policy)
      exact ⟨b', there, same, left, restarts.trans running⟩
    | next =>
      cases count : b.policy.most - 1 - n with
      | zero =>
        have spent : b.policy.most - 1 - (n + 1) = 0 := by omega
        rw [count] at leaves
        obtain ⟨b', there, same, left, running⟩ := ih (b := b) (n := n + 1) (by rwa [spent])
        rw [spent] at running
        refine ⟨b', ?_, same, left, running⟩
        simpa [after, turn?, leaves.next?_spent] using there
      | succ left =>
        have remain : b.policy.most - 1 - (n + 1) = left := by omega
        rw [count] at leaves
        obtain ⟨b', there, same, left', running⟩ :=
          ih (b := { b with retries := b.retries + 1 }) (n := n + 1) (remain ▸ leaves.raised)
        refine ⟨b', ?_, same, left', ?_⟩
        · simpa [after, turn?, leaves.next?_handed] using there
        · rw [← remain]
          exact running

/-- What a backoff hands out when it has been asked `n` times since it was reset. -/
def RetryPolicy.handsOut (p : RetryPolicy) (n : Nat) : Option Nat :=
  if n < p.most - 1 then some p.delay else none

theorem CountedBackoff.Leaves.handsOut {b : CountedBackoff} {n : Nat}
    (leaves : b.Leaves (b.policy.most - 1 - n)) :
    b.next?.map (·.1) = some (b.policy.handsOut n) := by
  cases count : b.policy.most - 1 - n with
  | zero =>
    have spent : ¬ n < b.policy.most - 1 := by omega
    rw [count] at leaves
    rw [RetryPolicy.handsOut, if_neg spent, leaves.next?_spent]
    rfl
  | succ left =>
    have more : n < b.policy.most - 1 := by omega
    rw [count] at leaves
    rw [RetryPolicy.handsOut, if_pos more, leaves.next?_handed]
    rfl

theorem Backoff.handsOut (p : RetryPolicy) (n : Nat) :
    (Backoff.mk p (p.most - 1 - n)).next?.map (·.1) = p.handsOut n := by
  cases count : p.most - 1 - n with
  | zero =>
    have spent : ¬ n < p.most - 1 := by omega
    rw [RetryPolicy.handsOut, if_neg spent]
    rfl
  | succ left =>
    have more : n < p.most - 1 := by omega
    rw [RetryPolicy.handsOut, if_pos more]
    rfl

/-! ## Attempts -/

section
variable {α : Type}

/-- The loop around the attempts, of which number `n` is made at `time`. It numbers them itself,
and ends in nothing if that number or the backoff's overflows. -/
def supplyCounted (wait : Nat → Nat) (name : String) (attempt : Nat → Except Failure α)
    (b : CountedBackoff) (made : UInt32) (n time : Nat) : Option (Supplied α) :=
  match nextCount? made with
  | none => none
  | some number =>
    match attempt n with
    | .ok a => some ⟨[time], .ok a⟩
    | .error e =>
      match _handed : b.next? with
      | none => none
      | some (none, _) => some ⟨[time], .error (exhausted name number.toNat e)⟩
      | some (some delay, rest) =>
        (supplyCounted wait name attempt rest number (n + 1) (time + wait delay)).map
          (Supplied.earlier time)
termination_by b.spare
decreasing_by exact CountedBackoff.spare_of_next ‹_›

/-- The backoff is reset before the first attempt. -/
def supplyInCounts (wait : Nat → Nat) (name : String) (delay : Nat) (maxAttempts : UInt32)
    (attempt : Nat → Except Failure α) : Option (Supplied α) :=
  supplyCounted wait name attempt (CountedBackoff.start delay maxAttempts).reset 0 1 0

variable {wait : Nat → Nat} {name : String} {attempt : Nat → Except Failure α}

section
variable {b rest : CountedBackoff} {made number : UInt32} {n time delay : Nat} {e : Failure}

theorem supplyCounted_of_ok {a : α} (counted : nextCount? made = some number)
    (succeeds : attempt n = .ok a) :
    supplyCounted wait name attempt b made n time = some ⟨[time], .ok a⟩ := by
  rw [supplyCounted, counted]
  simp only [succeeds]

theorem supplyCounted_of_spent (counted : nextCount? made = some number)
    (fails : attempt n = .error e) (spent : b.next? = some (none, rest)) :
    supplyCounted wait name attempt b made n time =
      some ⟨[time], .error (exhausted name number.toNat e)⟩ := by
  rw [supplyCounted, counted]
  simp only [fails]
  split <;> simp_all

theorem supplyCounted_of_handed (counted : nextCount? made = some number)
    (fails : attempt n = .error e) (handed : b.next? = some (some delay, rest)) :
    supplyCounted wait name attempt b made n time =
      (supplyCounted wait name attempt rest number (n + 1) (time + wait delay)).map
        (Supplied.earlier time) := by
  rw [supplyCounted, counted]
  simp only [fails]
  split <;> simp_all

end

theorem supplyCounted_eq {b : CountedBackoff} {left : Nat} (leaves : b.Leaves left) {n : Nat}
    (number : n = b.retries.toNat + 1) (time : Nat) :
    supplyCounted wait name attempt b b.retries n time =
      some (supplyFrom wait name b.delay attempt left n time) := by
  induction left generalizing b n time with
  | zero =>
    obtain ⟨counted, one⟩ := nextCount?_of_small leaves.small
    unfold supplyFrom
    cases made : attempt n with
    | ok a => exact supplyCounted_of_ok counted made
    | error e =>
      rw [supplyCounted_of_spent counted made leaves.next?_spent, one, number]
  | succ left ih =>
    obtain ⟨counted, one⟩ := nextCount?_of_small leaves.small
    unfold supplyFrom
    cases made : attempt n with
    | ok a => exact supplyCounted_of_ok counted made
    | error e =>
      have next : n + 1 = (b.retries + 1).toNat + 1 := by omega
      rw [supplyCounted_of_handed counted made leaves.next?_handed,
        ih leaves.raised next (time + wait b.delay)]
      rfl

theorem supplyInCounts_eq (delay : Nat) (maxAttempts : UInt32) :
    supplyInCounts wait name delay maxAttempts attempt =
      some (supplyWaiting wait name ⟨delay, maxAttempts.toNat⟩ attempt) := by
  rw [supplyWaiting, Backoff.start_eq]
  exact supplyCounted_eq (CountedBackoff.leaves_reset (.start delay maxAttempts)) rfl 0

/-- Fails so many times before it succeeds; for ever, if there is no end to its failures. -/
structure FailsFirst (attempt : Nat → Except Failure α) (failures : ℕ∞) : Prop where
  fails : ∀ i : ℕ, (i : ℕ∞) < failures → ∃ e, attempt (i + 1) = .error e
  succeeds : ∀ k : ℕ, failures = k → ∃ a, attempt (k + 1) = .ok a

theorem exists_failsFirst (attempt : Nat → Except Failure α) : ∃ f, FailsFirst attempt f := by
  classical
  by_cases some_succeeds : ∃ k a, attempt (k + 1) = .ok a
  · refine ⟨Nat.find some_succeeds, ?_, ?_⟩
    · intro i before
      have failing := Nat.find_min some_succeeds (Nat.cast_lt.mp before)
      cases made : attempt (i + 1) with
      | ok a => exact absurd ⟨a, made⟩ failing
      | error e => exact ⟨e, rfl⟩
    · intro k here
      rw [← Nat.cast_inj.mp here]
      exact Nat.find_spec some_succeeds
  · refine ⟨⊤, ?_, nofun⟩
    intro i _
    cases made : attempt (i + 1) with
    | ok a => exact absurd ⟨i, a, made⟩ some_succeeds
    | error e => exact ⟨e, rfl⟩

def spaced (time delay count : Nat) : List Nat := (List.range count).map fun i => time + i * delay

theorem spaced_succ (time delay count : Nat) :
    spaced time delay (count + 1) = time :: spaced (time + delay) delay count := by
  simp only [spaced, List.range_succ_eq_map, List.map_cons, List.map_map]
  congr 1
  · omega
  · apply List.map_congr_left
    intro i _
    simp only [Function.comp, Nat.succ_mul]
    omega

theorem failing_later {n k : Nat} (fails : ∀ i < k + 1, ∃ e, attempt (n + i) = .error e) :
    ∀ i < k, ∃ e, attempt (n + 1 + i) = .error e := by
  intro i before
  rw [Nat.add_right_comm n 1 i]
  exact fails (i + 1) (by omega)

theorem supplyFrom_of_ok {delay left n k : Nat} {a : α} (time : Nat) (within : k ≤ left)
    (fails : ∀ i < k, ∃ e, attempt (n + i) = .error e) (succeeds : attempt (n + k) = .ok a) :
    supplyFrom wait name delay attempt left n time =
      ⟨spaced time (wait delay) (k + 1), .ok a⟩ := by
  induction k generalizing left n time with
  | zero => cases left <;> simp_all [supplyFrom, spaced]
  | succ k ih =>
    obtain ⟨left, rfl⟩ := Nat.exists_eq_add_one_of_ne_zero (n := left) (by omega)
    obtain ⟨e, first⟩ : ∃ e, attempt n = .error e := fails 0 (by omega)
    rw [← Nat.add_assoc, Nat.add_right_comm] at succeeds
    have later := ih (time + wait delay) (Nat.le_of_succ_le_succ within) (failing_later fails)
      succeeds
    unfold supplyFrom
    rw [first, later, spaced_succ time (wait delay) (k + 1)]
    rfl

theorem supplyFrom_of_error {delay left n : Nat} {e : Failure} (time : Nat)
    (fails : ∀ i < left, ∃ e, attempt (n + i) = .error e) (last : attempt (n + left) = .error e) :
    supplyFrom wait name delay attempt left n time =
      ⟨spaced time (wait delay) (left + 1), .error (exhausted name (n + left) e)⟩ := by
  induction left generalizing n time with
  | zero => simp_all [supplyFrom, spaced]
  | succ left ih =>
    obtain ⟨e', first⟩ : ∃ e, attempt n = .error e := fails 0 (by omega)
    rw [← Nat.add_assoc, Nat.add_right_comm] at last
    have later := ih (time + wait delay) (failing_later fails) last
    unfold supplyFrom
    rw [first, later, spaced_succ time (wait delay) (left + 1), Nat.add_right_comm n 1 left]
    rfl

/-- What comes of an operation that fails first so many times, if it is tried up to `most` times. -/
structure Supplied.Bounded (s : Supplied α) (name : String) (delay most : Nat)
    (attempt : Nat → Except Failure α) (failures : ℕ∞) : Prop where
  count : ∀ k : ℕ, failures = k → s.attemptsAt.length = min (k + 1) most
  countless : failures = ⊤ → s.attemptsAt.length = most
  times : ∀ (i : Nat) (made : i < s.attemptsAt.length), s.attemptsAt[i] = i * delay
  granted : (∃ a, s.result = .ok a) ↔ failures < most
  first : ∀ k : ℕ, failures = k → k < most → ∃ a, attempt (k + 1) = .ok a ∧ s.result = .ok a
  last : most ≤ failures → ∃ e failure, attempt most = .error e ∧ s.result = .error failure ∧
    failure = .within (.attempts name most) e ∧
    failure.message = name ++ " failed after " ++ toString most ++ " attempts"

theorem length_spaced (time delay count : Nat) : (spaced time delay count).length = count := by
  simp [spaced]

theorem getElem_spaced (delay count i : Nat) (made : i < (spaced 0 delay count).length) :
    (spaced 0 delay count)[i] = i * delay := by
  simp [spaced]

theorem FailsFirst.failing {failures : ℕ∞} (fails : FailsFirst attempt failures) {n : Nat}
    (late : n ≤ failures) : ∀ i < n, ∃ e, attempt (1 + i) = .error e := by
  intro i before
  rw [Nat.add_comm]
  exact fails.fails i (lt_of_lt_of_le (Nat.cast_lt.mpr before) late)

theorem bounded_of_early {delay left k : Nat} (exact : wait delay = delay)
    (fails : FailsFirst attempt k) (early : k ≤ left) :
    (supplyFrom wait name delay attempt left 1 0).Bounded name delay (left + 1) attempt k := by
  obtain ⟨a, succeeds⟩ := fails.succeeds k rfl
  have early' : (k : ℕ∞) < (left + 1 : ℕ) := Nat.cast_lt.mpr (Nat.lt_add_one_of_le early)
  rw [Nat.add_comm] at succeeds
  rw [supplyFrom_of_ok 0 early (fails.failing le_rfl) succeeds, exact]
  refine ⟨?_, nofun, getElem_spaced delay _, ?_, ?_, ?_⟩
  · intro k' same
    rw [length_spaced, ← Nat.cast_inj.mp same]
    omega
  · exact ⟨fun _ => early', fun _ => ⟨a, rfl⟩⟩
  · intro k' same _
    rw [← Nat.cast_inj.mp same, Nat.add_comm]
    exact ⟨a, succeeds, rfl⟩
  · intro late
    exact absurd early' (not_lt.mpr late)

theorem bounded_of_late {delay left : Nat} {failures : ℕ∞} (exact : wait delay = delay)
    (fails : FailsFirst attempt failures) (late : (left + 1 : ℕ) ≤ failures) :
    (supplyFrom wait name delay attempt left 1 0).Bounded name delay (left + 1) attempt
      failures := by
  have failing := fails.failing late
  obtain ⟨e, last⟩ := failing left (Nat.lt_add_one left)
  rw [supplyFrom_of_error 0 (fun i before => failing i (by omega)) last, exact]
  rw [Nat.add_comm] at last
  refine ⟨?_, fun _ => length_spaced _ _ _, getElem_spaced delay _, ?_, ?_, ?_⟩
  · intro k same
    rw [same] at late
    have enough := Nat.cast_le.mp late
    rw [length_spaced]
    omega
  · exact ⟨nofun, fun early => absurd early (not_lt.mpr late)⟩
  · intro k same early
    rw [same] at late
    exact absurd (Nat.cast_le.mp late) (by omega)
  · intro _
    rw [Nat.add_comm 1 left]
    exact ⟨e, _, last, rfl, rfl, rfl⟩

theorem supplyWaiting_bounded (policy : RetryPolicy) {failures : ℕ∞}
    (exact : wait policy.delay = policy.delay) (fails : FailsFirst attempt failures) :
    (supplyWaiting wait name policy attempt).Bounded name policy.delay policy.most attempt
      failures := by
  rw [supplyWaiting, ← policy.left_start]
  by_cases early : failures < ((Backoff.start policy).left + 1 : ℕ)
  · obtain ⟨k, rfl⟩ := ENat.ne_top_iff_exists.mp early.ne_top
    exact bounded_of_early exact fails (Nat.le_of_lt_succ (Nat.cast_lt.mp early))
  · exact bounded_of_late exact fails (not_lt.mp early)

structure RetriesBounded (wait : Nat → Nat) (name : String) (delay : Nat) (maxAttempts : UInt32)
    (attempt : Nat → Except Failure α) (failures : ℕ∞) : Prop where
  supplied : ∃ s, supplyInCounts wait name delay maxAttempts attempt = some s ∧
    s = supplyWaiting wait name ⟨delay, maxAttempts.toNat⟩ attempt ∧
    s.Bounded name delay (max 1 maxAttempts.toNat) attempt failures
  handed : ∀ turns, ∃ b, (CountedBackoff.start delay maxAttempts).after turns = some b ∧
    b.next?.map (·.1) = some
      (if askedSince 0 turns < max 1 maxAttempts.toNat - 1 then some delay else none) ∧
    b.next?.map (·.1) =
      some (((Backoff.start ⟨delay, maxAttempts.toNat⟩).after turns).next?.map (·.1))

theorem retries_bounded {wait : Nat → Nat} {delay : Nat} (exact : wait delay = delay)
    (name : String) (maxAttempts : UInt32) {attempt : Nat → Except Failure α} {failures : ℕ∞}
    (fails : FailsFirst attempt failures) :
    RetriesBounded wait name delay maxAttempts attempt failures := by
  constructor
  · refine ⟨_, supplyInCounts_eq delay maxAttempts, rfl, ?_⟩
    exact supplyWaiting_bounded ⟨delay, maxAttempts.toNat⟩ exact fails
  · intro turns
    have leaves := CountedBackoff.leaves_start delay maxAttempts
    obtain ⟨b, there, same, leaves, running⟩ := CountedBackoff.after_leaves (n := 0) leaves turns
    rw [← same] at leaves
    have handed := leaves.handsOut
    rw [same] at handed
    refine ⟨b, there, handed, ?_⟩
    have start : (CountedBackoff.start delay maxAttempts).policy = ⟨delay, maxAttempts.toNat⟩ := rfl
    rw [handed, Backoff.start_eq, ← start]
    exact congrArg some ((congrArg (·.next?.map (·.1)) running).trans (Backoff.handsOut _ _)).symm

end

def balky : Nat → Except Failure Nat := fun n =>
  if n ≤ 2 then .error (.reported "not yet") else .ok n

example : supply "loading" ⟨20, 3⟩ balky = ⟨[0, 20, 40], .ok 3⟩ := rfl

theorem balky_failsFirst : FailsFirst balky 2 := by
  constructor
  · intro i before
    have early : i < 2 := Nat.cast_lt.mp before
    exact ⟨_, if_pos (by omega)⟩
  · intro k same
    have two : 2 = k := Nat.cast_inj.mp same
    subst two
    exact ⟨3, rfl⟩

theorem balky_bounded : waitFor 20 = 20 ∧ FailsFirst balky 2 ∧
    RetriesBounded waitFor "loading" 20 3 balky 2 :=
  ⟨by decide, balky_failsFirst, retries_bounded (by decide) "loading" 3 balky_failsFirst⟩

end FlowRuntime
