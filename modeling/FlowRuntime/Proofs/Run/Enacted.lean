import FlowRuntime.Proofs.FanOut
import FlowRuntime.Proofs.Run.Course
import FlowRuntime.Run.Enactment

/-!
Activities as they are enacted. We verify that an activity that is enacted takes one of its
courses; that with a limit it stops nowhere but at a single call that is never answered; that
its fan-outs take no longer than their number allows; and that an instance ends up as its own
encounters make it, which are all the fan-outs that it is a target of.
-/
namespace FlowRuntime

def Call.isFanOut : Call → Bool
  | .fanOut _ _ => true
  | _ => false

def fanOuts (log : List Exchange) : Nat := log.countP (·.call.isFanOut)

def msOf (kind : Call → Bool) : List (Exchange × Nat) → Nat
  | [] => 0
  | e :: rest => (if kind e.1.call then e.2 else 0) + msOf kind rest

namespace Enactment
variable {σ α : Type} (e : Enactment σ α)

def log : List Exchange := e.timed.map (·.1)

def ms : Nat := msOf (fun _ => true) e.timed

def fanOutMs : Nat := msOf Call.isFanOut e.timed

def ownMs : Nat := msOf (fun call => !call.isFanOut) e.timed

theorem ms_eq : e.ms = e.fanOutMs + e.ownMs := by
  unfold ms fanOutMs ownMs
  induction e.timed with
  | nil => rfl
  | cons first rest ih =>
    rw [msOf, msOf, msOf, ih]
    by_cases fans : first.1.call.isFanOut = true
    · simp only [fans, if_true, Bool.not_true, Bool.false_eq_true, if_false]
      omega
    · simp only [fans, if_true, Bool.not_false, Bool.false_eq_true, if_false]
      omega

end Enactment

/-! ### Instances and their encounters -/

inductive Encounter where
  | begun (options : InstanceOptions)
  | asked (op : InstanceOp)
  deriving DecidableEq

/-- What an exchange means to whoever has this handle. -/
def Exchange.encounters (h : Handle) : Exchange → List Encounter
  | ⟨.start options, .ok handle⟩ => if handle = h then [.begun options] else []
  | ⟨.fanOut op targets, _⟩ => (targets.filter (·.2 = h)).map fun _ => .asked op
  | _ => []

def encounters (h : Handle) (log : List Exchange) : List Encounter :=
  log.flatMap (·.encounters h)

section
variable {σ α : Type} {w : Surroundings σ} {limit : Option Nat} {h : Handle}

def Surroundings.meet (w : Surroundings σ) (limit : Option Nat) (h : Handle) (mind : σ) :
    Encounter → σ
  | .begun options => w.born h options
  | .asked op => (w.serve h op mind).after limit

def Surroundings.meetAll (w : Surroundings σ) (limit : Option Nat) (h : Handle) (mind : σ)
    (met : List Encounter) : σ := met.foldl (w.meet limit h) mind

theorem Surroundings.askAll_crew (op : InstanceOp) (targets : List (StageKey × Handle))
    (crew : Handle → σ) (report : Report StageKey) :
    (w.askAll limit op targets crew).2 h =
      w.meetAll limit h (crew h) (Exchange.encounters h ⟨.fanOut op targets, report⟩) := by
  induction targets generalizing crew with
  | nil => rfl
  | cons t rest ih =>
    obtain ⟨key, handle⟩ := t
    have later := ih (Function.update crew handle ((w.serve handle op (crew handle)).after limit))
    by_cases same : handle = h
    · subst same
      rw [Function.update_self] at later
      simpa [askAll, Exchange.encounters, meetAll, meet] using later
    · rw [Function.update_of_ne (Ne.symm same)] at later
      simpa [askAll, Exchange.encounters, same] using later

theorem Surroundings.reply_crew {n : Nat} {crew : Handle → σ} {call : Call} {r : Reply σ call}
    (replied : w.reply limit n crew call = some r) :
    r.crew h = w.meetAll limit h (crew h) (Exchange.encounters h ⟨call, r.answer⟩) := by
  cases call with
  | bind groups | repartition group =>
    obtain ⟨given, _, rfl⟩ := Option.map_eq_some_iff.mp replied
    rfl
  | start options =>
    obtain ⟨⟨ms, answer⟩, _, rfl⟩ := Option.map_eq_some_iff.mp replied
    cases answer with
    | error e => rfl
    | ok handle =>
      by_cases same : handle = h
      · subst same
        simp [welcome, Exchange.encounters, meetAll, meet]
      · simp [welcome, Exchange.encounters, meetAll, same, Ne.symm same]
  | fanOut op targets =>
    obtain ⟨given, _, rfl⟩ := Option.map_eq_some_iff.mp replied
    exact askAll_crew op targets crew given.1

/-- An instance is in the end what its own encounters have made of it. -/
theorem enact_crew (a : Activity α) (n : Nat) (crew : Handle → σ) :
    (a.enact w limit n crew).crew h =
      w.meetAll limit h (crew h) (encounters h (a.enact w limit n crew).log) := by
  induction a generalizing n crew with
  | done run x => rfl
  | waiting run call resume ih =>
    rw [Activity.enact]
    cases replied : w.reply limit n crew call with
    | none => rfl
    | some r =>
      have later := ih r.answer (n + 1) r.crew
      rw [Surroundings.reply_crew replied] at later
      simpa [Enactment.log, encounters, Surroundings.meetAll] using later

/-! ### Where an enactment stops -/

theorem enact_leads (a : Activity α) (n : Nat) (crew : Handle → σ) :
    a.Leads (a.enact w limit n crew).log (a.enact w limit n crew).rest := by
  induction a generalizing n crew with
  | done run x => exact .here _
  | waiting run call resume ih =>
    rw [Activity.enact]
    cases w.reply limit n crew call with
    | none => exact .here _
    | some r => exact .next r.answer (ih r.answer (n + 1) r.crew)

def Activity.IsDone (a : Activity α) : Prop := ∃ run x, a = .done run x

/-- It waits for a single call that is never answered. -/
def Activity.Waits (w : Surroundings σ) (n : Nat) (a : Activity α) : Prop :=
  ∃ run call resume, a = .waiting run call resume ∧ call.isFanOut = false ∧ w.single n call = none

theorem Surroundings.reply_isSome (l : Nat) {n : Nat} (crew : Handle → σ) {call : Call}
    (answered : call.isFanOut = false → (w.single n call).isSome) :
    (w.reply (some l) n crew call).isSome := by
  cases call with
  | bind groups | repartition group | start options =>
    rw [reply, Option.isSome_map]
    exact answered rfl
  | fanOut op targets =>
    obtain ⟨r, ms, returned, _⟩ := FanOut.bestEffortBy_within waitFor l
      (w.askAll (some l) op targets crew).1
    simp [reply, FanOut.bestEffort, returned]

theorem enact_stops (l : Nat) (a : Activity α) (n : Nat) (crew : Handle → σ) :
    (a.enact w (some l) n crew).rest.IsDone ∨
      (a.enact w (some l) n crew).rest.Waits w (n + (a.enact w (some l) n crew).log.length) := by
  induction a generalizing n crew with
  | done run x => exact .inl ⟨run, x, rfl⟩
  | waiting run call resume ih =>
    rw [Activity.enact]
    cases replied : w.reply (some l) n crew call with
    | none =>
      refine .inr ⟨run, call, resume, rfl, ?_⟩
      by_contra answered
      have given : (w.reply (some l) n crew call).isSome := by
        apply Surroundings.reply_isSome l crew
        intro single
        rw [Option.isSome_iff_ne_none]
        exact fun none => answered ⟨single, none⟩
      simp [replied] at given
    | some r =>
      have later := ih r.answer (n + 1) r.crew
      simp only [Enactment.log, List.map_cons, List.length_cons] at later ⊢
      rwa [Nat.add_right_comm, Nat.add_assoc] at later

/-! ### Fan-outs -/

/-- What is known of a fan-out that took so long. -/
structure FannedOut (l : Nat) (targets : List (StageKey × Handle)) (report : Report StageKey)
    (ms : Nat) : Prop where
  soon : ms ≤ l
  once : (report.succeeded ++ report.failed.map (·.1)).Perm (targets.map (·.1))

theorem Surroundings.askAll_keys (op : InstanceOp) (targets : List (StageKey × Handle))
    (crew : Handle → σ) :
    (w.askAll limit op targets crew).1.map (·.1) = targets.map (·.1) := by
  induction targets generalizing crew with
  | nil => rfl
  | cons t rest ih => simp [askAll, ih]

theorem Surroundings.reply_fanOut {l n : Nat} {crew : Handle → σ} {op : InstanceOp}
    {targets : List (StageKey × Handle)} {r : Reply σ (.fanOut op targets)}
    (replied : w.reply (some l) n crew (.fanOut op targets) = some r) :
    FannedOut l targets r.answer r.ms := by
  obtain ⟨report, ms, returned, soon, once⟩ := FanOut.bestEffortBy_within waitFor l
    (w.askAll (some l) op targets crew).1
  simp only [reply, FanOut.bestEffort, returned, Option.map_some, Option.some.injEq] at replied
  subst replied
  refine ⟨Nat.le_trans soon (Nat.min_le_left l longestWait), ?_⟩
  rwa [Surroundings.askAll_keys] at once

theorem enact_fannedOut (l : Nat) (a : Activity α) (n : Nat) (crew : Handle → σ) {op : InstanceOp}
    {targets : List (StageKey × Handle)} {report : Report StageKey} {ms : Nat}
    (mem : (⟨.fanOut op targets, report⟩, ms) ∈ (a.enact w (some l) n crew).timed) :
    FannedOut l targets report ms := by
  induction a generalizing n crew with
  | done run x => cases mem
  | waiting run call resume ih =>
    rw [Activity.enact] at mem
    cases replied : w.reply (some l) n crew call with
    | none =>
      rw [replied] at mem
      cases mem
    | some r =>
      rw [replied] at mem
      rcases List.mem_cons.mp mem with here | later
      · cases here
        exact Surroundings.reply_fanOut replied
      · exact ih r.answer (n + 1) r.crew later

theorem msOf_fanOut_le {l : Nat} {timed : List (Exchange × Nat)}
    (soon : ∀ e ∈ timed, e.1.call.isFanOut → e.2 ≤ l) :
    msOf Call.isFanOut timed ≤ fanOuts (timed.map (·.1)) * l := by
  induction timed with
  | nil => exact Nat.zero_le _
  | cons e rest ih =>
    obtain ⟨first, others⟩ := List.forall_mem_cons.mp soon
    have later := ih others
    rw [fanOuts] at later
    rw [msOf, List.map_cons, fanOuts, List.countP_cons, Nat.add_mul]
    by_cases fans : e.1.call.isFanOut = true
    · have here := first fans
      rw [if_pos fans, if_pos fans]
      omega
    · rw [if_neg fans, if_neg fans]
      omega

theorem enact_fanOutMs (l : Nat) (a : Activity α) (n : Nat) (crew : Handle → σ) :
    (a.enact w (some l) n crew).fanOutMs ≤ fanOuts (a.enact w (some l) n crew).log * l := by
  apply msOf_fanOut_le
  rintro ⟨⟨call, answer⟩, ms⟩ mem fans
  cases call with
  | bind groups | repartition group | start options => cases fans
  | fanOut op targets => exact (enact_fannedOut l a n crew mem).soon

end
end FlowRuntime
