import FlowRuntime.Proofs.Partitioner
import FlowRuntime.Proofs.Rehearsal.Scene

/-!
Rehearsals against the courses of operations. What a scene does for an activity in
virtual time is a course of the activity, and what it logs are the calls of that
course; all that goes on besides, in instances and listeners, changes nothing about
the run and makes no call. A fan-out is answered only when all of its errands are
over, so while one of them is still out nothing further is called for.
-/
namespace FlowRuntime.Rehearsal

/-- Nothing has been done about the run: no call has been made for it, no errand begun and nothing
assigned. -/
structure Aloof (s s' : Scene) : Prop where
  run : s'.run = s.run
  calls : s'.world.calls = s.world.calls
  errands : s'.errands.size = s.errands.size
  partitioner : s'.world.partitioner = s.world.partitioner

/-- Whoever listens has not noticed either: nobody has been told anything, or has worked. -/
structure Unheard (s s' : Scene) : Prop extends Aloof s s' where
  audience : s'.audience = s.audience

theorem Aloof.refl (s : Scene) : Aloof s s := ⟨rfl, rfl, rfl, rfl⟩

theorem Aloof.trans {s s' s'' : Scene} (first : Aloof s s') (second : Aloof s' s'') : Aloof s s'' :=
  ⟨second.run.trans first.run, second.calls.trans first.calls, second.errands.trans first.errands,
    second.partitioner.trans first.partitioner⟩

theorem Aloof.foldl {ι : Type} {f : Scene → ι → Scene} (each : ∀ s i, Aloof s (f s i)) (s : Scene)
    (items : List ι) : Aloof s (items.foldl f s) := by
  refine List.foldlRecOn items f (refl s) ?_
  intro s' kept i _
  exact kept.trans (each s' i)

/-! ### Errands -/

namespace Unheard
variable {s s' s'' : Scene}

theorem refl (s : Scene) : Unheard s s := ⟨.refl s, rfl⟩

theorem trans (first : Unheard s s') (second : Unheard s' s'') : Unheard s s'' :=
  ⟨first.toAloof.trans second.toAloof, second.audience.trans first.audience⟩

theorem foldl {ι : Type} {f : Scene → ι → Scene} (each : ∀ s i, Unheard s (f s i)) (s : Scene)
    (items : List ι) : Unheard s (items.foldl f s) := by
  refine List.foldlRecOn items f (refl s) ?_
  intro s' kept i _
  exact kept.trans (each s' i)

theorem ofReordered (reordered : Reordered s s') : Unheard s s' := by
  obtain ⟨_, _, _, _, _, _, _, rfl⟩ := reordered
  exact ⟨⟨rfl, rfl, rfl, rfl⟩, rfl⟩

theorem setErrand (s : Scene) (i : Nat) (e : Errand) : Unheard s (s.setErrand i e) :=
  ⟨⟨rfl, rfl, Array.size_setIfInBounds, rfl⟩, rfl⟩

theorem send (s : Scene) (i : Nat) (handle : Handle) (op : InstanceOp) :
    Unheard s (s.send i handle op) := by
  unfold Scene.send
  split
  · exact setErrand s i _
  · have posted : Unheard s { s with world := s.world.post handle ⟨s.round, i, op⟩ } :=
      ⟨⟨rfl, rfl, rfl, rfl⟩, rfl⟩
    have sent := posted.trans (setErrand _ i (.sent none))
    dsimp only
    split
    · exact sent
    · exact sent.trans (.ofReordered (.wake _ _))

theorem noteAnswer (s : Scene) (l : Letter) (outcome : Outcome) :
    Unheard s (s.noteAnswer l outcome) := by
  apply Scene.noteAnswer_induction (P := Unheard s) (refl s) (setErrand s l.place _)
  intro s' players unheard
  exact unheard.trans (.ofReordered (.wakeAll s' players))

theorem residentReads (s : Scene) (handle : Handle) : Unheard s (s.residentReads handle) := by
  have unread : (s.world.read handle).1.calls = s.world.calls ∧
      (s.world.read handle).1.partitioner = s.world.partitioner := by
    unfold World.read
    split <;> exact ⟨rfl, rfl⟩
  apply Scene.residentReads_induction (P := Unheard s) ⟨⟨rfl, unread.1, rfl, unread.2⟩, rfl⟩
  intro s' l outcome unheard
  exact unheard.trans (noteAnswer s' l outcome)

theorem attendErrand (s : Scene) (op : InstanceOp) (i : Nat) (handle : Handle) :
    Unheard s (s.attendErrand op i handle) := by
  apply Scene.attendErrand_induction (P := Unheard s) (refl s)
  · intro s' outcome unheard
    exact unheard.trans (setErrand s' i _)
  · exact send s i handle op

theorem attendErrands (s : Scene) (op : InstanceOp) (targets : List (StageKey × Handle)) :
    Unheard s (s.attendErrands op targets) :=
  foldl (fun s (e : (StageKey × Handle) × Nat) => attendErrand s op e.2 e.1.2) s _

theorem startErrand (s : Scene) (place : Nat) (op : InstanceOp) (target : StageKey × Handle) :
    ∃ e, Unheard { s with
        world := (s.world.meet (.request op target.1)).1
        errands := s.errands.push e } (s.startErrand place op target) := by
  unfold Scene.startErrand
  dsimp only
  generalize Errand.delayed _ _ = e
  refine ⟨e, ?_⟩
  split
  · exact ((attendErrand _ op _ target.2).trans (.ofReordered (.cueAt _ _ place))).trans
      (.ofReordered (.cueAt _ _ place))
  · exact attendErrand _ op _ target.2

end Unheard

/-! ### Turns -/

namespace Aloof
variable {s s' : Scene}

theorem ofReordered (reordered : Reordered s s') : Aloof s s' :=
  (Unheard.ofReordered reordered).toAloof

theorem advance (s : Scene) (time : Nat) : Aloof s (s.advance time) := by
  have passed : Aloof s { s with now := time, cues := s.cues.filter (time < ·.time) } :=
    ⟨rfl, rfl, rfl, rfl⟩
  exact passed.trans (ofReordered (.wakeAll _ _))

theorem see (s : Scene) (run : Run) : Aloof { s with run := run } (s.see run) := by
  apply Scene.see_induction (P := Aloof { s with run := run }) (refl _)
  · intro s' t aloof
    exact aloof.trans ⟨rfl, rfl, rfl, rfl⟩
  · intro s' players aloof
    exact aloof.trans (ofReordered (.wakeAll s' players))

theorem listenerWorks (s : Scene) (i : Nat) : Aloof s (s.listenerWorks i) := by
  have worked : Aloof s { s with audience := s.audience.work s.now i } := ⟨rfl, rfl, rfl, rfl⟩
  exact worked.trans (ofReordered (.listenerWorks s i))

theorem listen (s : Scene) (l : Listener) : Aloof s (s.listen l) := by
  have added : Aloof s { s with audience := s.audience.add l } := ⟨rfl, rfl, rfl, rfl⟩
  exact added.trans (ofReordered (.wake _ _))

theorem work (s : Scene) (p : Player) : Aloof s (s.work p) := by
  cases p with
  | part place => exact refl s
  | resident handle => exact (Unheard.residentReads s handle).toAloof
  | listener i => exact listenerWorks s i

theorem workRound (s : Scene) (turns : Nat) : Aloof s (s.workRound turns) := by
  apply Scene.workRound_induction (P := Aloof s) (refl s)
  intro s' next rest _ aloof
  have taken : Aloof s' { s' with called := rest } := ⟨rfl, rfl, rfl, rfl⟩
  exact (aloof.trans taken).trans (work _ next)

end Aloof

/-! ### Answers -/

/-- Whether it has come or not, an answer is all that a scene has got. -/
structure Looked {α : Type} (takes : α → Partitioner → Prop) (s : Scene) (now : Scene × Option α) :
    Prop where
  run : now.1.run = s.run
  calls : now.1.world.calls = s.world.calls
  errands : now.1.errands.size = s.errands.size
  pending : now.2 = none → now.1.world.partitioner = s.world.partitioner
  taken : ∀ a, now.2 = some a → takes a now.1.world.partitioner
  audience : now.1.audience = s.audience

namespace Looked
variable {α : Type} {takes : α → Partitioner → Prop} {s s' : Scene} {now : Scene × Option α}

theorem unheard (looked : Looked takes s now) (later : Unheard now.1 s') :
    Looked takes s (s', now.2) where
  run := later.run.trans looked.run
  calls := later.calls.trans looked.calls
  errands := later.errands.trans looked.errands
  pending same := later.partitioner.trans (looked.pending same)
  taken := by
    intro a same
    rw [later.partitioner]
    exact looked.taken a same
  audience := later.audience.trans looked.audience

theorem ofPending (looked : Looked takes s (s', none)) : Aloof s s' :=
  ⟨looked.run, looked.calls, looked.errands, looked.pending rfl⟩

theorem single? (takes : Except Failure α → Partitioner → Prop) (s : Scene) (fate : Fate)
    (go : World → World × Except Failure α) (unlogged : (go s.world).1.calls = s.world.calls)
    (failed : ∀ e, takes (.error e) s.world.partitioner)
    (went : takes (go s.world).2 (go s.world).1.partitioner) :
    Looked takes s (s.single? fate go) := by
  unfold Scene.single?
  split
  · refine ⟨rfl, rfl, rfl, fun _ => rfl, ?_, rfl⟩
    intro a same
    cases same
  · split
    · refine ⟨rfl, rfl, rfl, fun _ => rfl, ?_, rfl⟩
      intro a same
      cases same
      exact failed _
    · refine ⟨rfl, unlogged, rfl, ?_, ?_, rfl⟩
      · intro pending
        cases pending
      · intro a same
        cases same
        exact went

theorem answer? (s : Scene) (fate : Fate) (call : Call) :
    Looked (fun a p => s.world.partitioner.Takes ⟨call, a⟩ p) s (s.answer? fate call) := by
  cases call with
  | bind groups => exact single? _ s fate (·.bind groups) rfl (fun e => .inr ⟨rfl, e, rfl⟩) (.inl rfl)
  | repartition group =>
    exact single? _ s fate (·.repartition group) rfl (fun e => .inr ⟨rfl, e, rfl⟩) (.inl rfl)
  | start options =>
    have apart : (s.world.start options).1.calls = s.world.calls ∧
        (s.world.start options).1.partitioner = s.world.partitioner := by
      unfold World.start
      split <;> exact ⟨rfl, rfl⟩
    have looked := single? (fun _ p => p = s.world.partitioner) s fate (·.start options) apart.1
      (fun _ => rfl) apart.2
    exact looked.unheard (.ofReordered (.greet _ _))
  | fanOut op targets =>
    have attended := Unheard.attendErrands s op targets
    exact ⟨attended.run, attended.calls, attended.errands, fun _ => attended.partitioner,
      fun _ _ => attended.partitioner, attended.audience⟩

end Looked

/-! ### Calls -/

structure Made (s : Scene) (calls : List LoggedCall) (s' : Scene) : Prop where
  run : s'.run = s.run
  calls : s'.world.calls = calls.reverse ++ s.world.calls
  partitioner : s'.world.partitioner = s.world.partitioner
  audience : s'.audience = s.audience

namespace Made
variable {s s' s'' : Scene} {calls calls' : List LoggedCall}

theorem trans (first : Made s calls s') (second : Made s' calls' s'') :
    Made s (calls ++ calls') s'' where
  run := second.run.trans first.run
  calls := by rw [second.calls, first.calls, List.reverse_append, List.append_assoc]
  partitioner := second.partitioner.trans first.partitioner
  audience := second.audience.trans first.audience

theorem ofUnheard (unheard : Unheard s s') : Made s [] s' :=
  ⟨unheard.run, unheard.calls, unheard.partitioner, unheard.audience⟩

theorem unheard (made : Made s calls s') (later : Unheard s' s'') : Made s calls s'' := by
  simpa using made.trans (ofUnheard later)

theorem meet (s : Scene) (call : LoggedCall) :
    Made s [call] { s with world := (s.world.meet call).1 } := ⟨rfl, rfl, rfl, rfl⟩

theorem startErrand (s : Scene) (place : Nat) (op : InstanceOp) (target : StageKey × Handle) :
    Made s [.request op target.1] (s.startErrand place op target) := by
  obtain ⟨e, begun⟩ := Unheard.startErrand s place op target
  exact ⟨begun.run, begun.calls, begun.partitioner, begun.audience⟩

theorem startErrands (s : Scene) (place : Nat) (op : InstanceOp)
    (targets : List (StageKey × Handle)) :
    Made s (targets.map fun t => .request op t.1)
      (targets.foldl (fun s target => s.startErrand place op target) s) := by
  induction targets generalizing s with
  | nil => exact .ofUnheard (.refl s)
  | cons head rest ih => exact (startErrand s place op head).trans (ih _)

theorem startErrands_size (s : Scene) (place : Nat) (op : InstanceOp)
    (targets : List (StageKey × Handle)) :
    (targets.foldl (fun s target => s.startErrand place op target) s).errands.size =
      s.errands.size + targets.length := by
  induction targets generalizing s with
  | nil => rfl
  | cons head rest ih =>
    obtain ⟨e, begun⟩ := Unheard.startErrand s place op head
    have one : (s.startErrand place op head).errands.size = s.errands.size + 1 :=
      begun.errands.trans (Array.size_push e)
    rw [List.foldl_cons, ih, one, List.length_cons]
    omega

theorem beginCall (s : Scene) (place : Nat) (call : Call) :
    Made s call.logged (s.beginCall place call).1 := by
  cases call with
  | bind groups => exact (meet s (.bind groups)).unheard (.ofReordered (.cueAt _ _ place))
  | repartition group => exact (meet s (.repartition group)).unheard (.ofReordered (.cueAt _ _ place))
  | start options => exact (meet s (.start options)).unheard (.ofReordered (.cueAt _ _ place))
  | fanOut op targets =>
    have opened : Made s [] { s with round := s.round + 1, since := s.now, errands := #[] } :=
      ⟨rfl, rfl, rfl, rfl⟩
    exact opened.trans (startErrands _ place op targets)

end Made

/-! ### Activities in a scene -/

section
variable {α : Type}

/-- Whether what an activity has come to is under way in this form. -/
def Stands : Activity α → Undertaking α ⊕ α → Prop
  | b, .inl u => ∃ run, b = .waiting run u.call u.resume
  | b, .inr x => ∃ run, b = .done run x

def Manned (s : Scene) : Undertaking α ⊕ α → Prop
  | .inl u => ∀ op targets, u.call = .fanOut op targets → s.errands.size = targets.length
  | .inr _ => True

theorem Manned.aloof {s s' : Scene} {form : Undertaking α ⊕ α} (manned : Manned s form)
    (aloof : Aloof s s') : Manned s' form := by
  cases form with
  | inl u => exact fun op targets same => aloof.errands.trans (manned op targets same)
  | inr x => trivial

/-- Since it was like the first of them, a scene has followed a course of an activity. -/
def Follows (a : Activity α) (s₀ s : Scene) (form : Undertaking α ⊕ α) : Prop :=
  ∃ log b, a.Leads log b ∧ Stands b form ∧ Manned s form ∧ s.run = b.run ∧
    s.world.calls = (b.phases log).flatten.reverse ++ s₀.world.calls ∧
    s₀.world.partitioner.TakesAll log s.world.partitioner

theorem Follows.aloof {a : Activity α} {s₀ s s' : Scene} {form : Undertaking α ⊕ α}
    (follows : Follows a s₀ s form) (aloof : Aloof s s') : Follows a s₀ s' form := by
  obtain ⟨log, b, leads, stands, manned, run, calls, taken⟩ := follows
  refine ⟨log, b, leads, stands, manned.aloof aloof, aloof.run.trans run, aloof.calls.trans calls, ?_⟩
  rw [aloof.partitioner]
  exact taken

theorem Follows.since {a : Activity α} {s₀ s s' : Scene} {form : Undertaking α ⊕ α}
    (follows : Follows a s s' form) (aloof : Aloof s₀ s) : Follows a s₀ s' form := by
  unfold Follows at *
  rwa [aloof.calls, aloof.partitioner] at follows

theorem Follows.next {run : Run} {call : Call} {resume : call.Answer → Activity α}
    {answer : call.Answer} {s₀ s₁ s : Scene} {form : Undertaking α ⊕ α}
    (follows : Follows (resume answer) s₁ s form)
    (made : s₁.world.calls = call.logged.reverse ++ s₀.world.calls)
    (taken : s₀.world.partitioner.Takes ⟨call, answer⟩ s₁.world.partitioner) :
    Follows (.waiting run call resume) s₀ s form := by
  obtain ⟨log, b, leads, stands, manned, here, calls, later⟩ := follows
  refine ⟨_, b, .next answer leads, stands, manned, here, ?_, _, taken, later⟩
  rw [calls, made, Activity.phases_cons]
  simp

theorem follows_drive (a : Activity α) (s : Scene) (place : Nat) :
    Follows a s (s.drive place a).1 (s.drive place a).2 := by
  induction a generalizing s with
  | done run x =>
    have seen := Aloof.see s run
    exact ⟨[], .done run x, .here _, ⟨run, rfl⟩, trivial, seen.run, seen.calls, seen.partitioner⟩
  | waiting run call resume ih =>
    have seen := Aloof.see s run
    have begun := Made.beginCall (s.see run) place call
    -- The call is begun and looked after at once; with an answer, the rest is driven on from there.
    have looked := Looked.answer? ((s.see run).beginCall place call).1
      ((s.see run).beginCall place call).2 call
    have calls := looked.calls.trans begun.calls
    have unassigned := begun.partitioner.trans seen.partitioner
    rw [seen.calls] at calls
    rw [unassigned] at looked
    unfold Scene.drive
    dsimp only
    split
    · rename_i s' unanswered
      rw [unanswered] at calls looked
      refine ⟨[], .waiting run call resume, .here _, ⟨run, rfl⟩, ?_, ?_, ?_, ?_⟩
      · intro op targets same
        subst same
        have size := Made.startErrands_size
          { s.see run with round := (s.see run).round + 1, since := (s.see run).now, errands := #[] }
          place op targets
        exact looked.errands.trans (size.trans (Nat.zero_add _))
      · exact (looked.run.trans begun.run).trans seen.run
      · simpa [Activity.phases] using calls
      · exact looked.ofPending.partitioner.trans unassigned
    · rename_i s' answer answered
      rw [answered] at calls looked
      have onward := ih answer (s'.dropCues (.part place))
      exact onward.next calls (looked.taken answer rfl)

theorem follows_goOn {a : Activity α} {s₀ s : Scene} {u : Undertaking α}
    (follows : Follows a s₀ s (.inl u)) (place : Nat) :
    Follows a s₀ (s.goOn place u).1 (s.goOn place u).2 := by
  obtain ⟨call, fate, resume⟩ := u
  have looked := Looked.answer? s fate call
  unfold Scene.goOn
  dsimp only
  split
  · rename_i s' unanswered
    rw [unanswered] at looked
    exact follows.aloof looked.ofPending
  · rename_i s' answer answered
    rw [answered] at looked
    obtain ⟨log, b, leads, ⟨run, rfl⟩, _, here, calls, taken⟩ := follows
    obtain ⟨log', b', onward, stands, manned, there, later, takes⟩ :=
      follows_drive (resume answer) (s'.dropCues (.part place)) place
    have dropped : (s'.dropCues (.part place)).world.calls = s.world.calls := looked.calls
    refine ⟨log ++ ⟨call, answer⟩ :: log', b', leads.trans (.next answer onward), stands, manned, there,
      ?_, ?_⟩
    · rw [later, dropped, calls, Activity.phases_append, Activity.phases_cons]
      simp [Activity.phases]
    · exact Partitioner.takesAll_append.mpr ⟨_, taken, _, looked.taken answer rfl, takes⟩

end

theorem outcomes_of_mapM {errands : List Errand} {outcomes : List Outcome}
    (all : errands.mapM Errand.outcome? = some outcomes) :
    ∀ e ∈ errands, e.outcome?.isSome := by
  induction errands generalizing outcomes with
  | nil => simp
  | cons head rest ih =>
    rw [List.mapM_cons] at all
    simp only [Option.bind_eq_bind, Option.bind_eq_some_iff] at all
    obtain ⟨first, found, others, gathered, _⟩ := all
    intro e mem
    rcases List.mem_cons.mp mem with rfl | later
    · simp [found]
    · exact ih gathered e later

theorem report?_out {s : Scene} {targets : List (StageKey × Handle)} {i : Nat}
    (out : s.isOut i = true) : s.report? targets = none := by
  cases all : s.errands.toList.mapM Errand.outcome? with
  | none => simp [Scene.report?, all]
  | some outcomes =>
    rw [Scene.isOut, Option.any_eq_true] at out
    obtain ⟨e, found, unsettled⟩ := out
    have mem : e ∈ s.errands.toList := by
      rw [Array.mem_toList_iff]
      exact Array.mem_of_getElem? found
    have settled := outcomes_of_mapM all e mem
    rw [Option.isNone_iff_eq_none] at unsettled
    simp [unsettled] at settled

/-! ### A request that is played alone -/

def Act.form? : Act → Option (Undertaking Finding ⊕ Finding)
  | .calling u => some (.inl u)
  | .ended _ finding => some (.inr finding)
  | _ => none

def Act.Asks (request : RunRequest) : Act → Prop
  | .ahead _ r => r = .turn request
  | .waiting _ r => r = .turn request
  | .inLine r => r = request
  | _ => False

/-- How a scene and an act may stand while a request is played: the act is seen to, the others have
their turns, and time passes. -/
inductive Moment (place : Nat) (request : RunRequest) (s₀ : Scene) : Scene → Act → Prop where
  | asked (after : Nat) : Moment place request s₀ s₀ (.ahead after (.turn request))
  | seen {s : Scene} {act : Act} (before : Moment place request s₀ s act) :
      Moment place request s₀ ((s.unstir place).seeTo place act).1
        ((s.unstir place).seeTo place act).2
  | worked {s : Scene} {act : Act} (before : Moment place request s₀ s act) (turns : Nat) :
      Moment place request s₀ (s.workRound turns) act
  | passed {s : Scene} {act : Act} (before : Moment place request s₀ s act) (time : Nat) :
      Moment place request s₀ (s.advance time) act

/-- A request is still asked for in the scene as it was, or a course of it has been followed. -/
def Played (request : RunRequest) (s₀ s : Scene) (act : Act) : Prop :=
  match act.form? with
  | none => act.Asks request ∧ Aloof s₀ s
  | some form => Follows ((Finding.ofAnswer <$> request.operation) s₀.run) s₀ s form

section
variable {place : Nat} {request : RunRequest} {s₀ s s' : Scene} {act : Act}

theorem Played.aloof (played : Played request s₀ s act) (aloof : Aloof s s') :
    Played request s₀ s' act := by
  unfold Played at *
  split
  · rename_i none
    rw [none] at played
    exact ⟨played.1, played.2.trans aloof⟩
  · rename_i form same
    rw [same] at played
    exact Follows.aloof played aloof

theorem played_settleCall {now : Scene × (Undertaking Finding ⊕ Finding)}
    (follows : Follows ((Finding.ofAnswer <$> request.operation) s₀.run) s₀ now.1 now.2) :
    Played request s₀ (Scene.settleCall now).1 (Scene.settleCall now).2 := by
  obtain ⟨s, u | finding⟩ := now
  · exact follows
  · exact follows.aloof (.ofReordered (.passTurn s))

theorem played_carryOut (aloof : Aloof s₀ s) :
    Played request s₀ (s.carryOut place request).1 (s.carryOut place request).2 := by
  apply played_settleCall
  rw [← aloof.run]
  exact (follows_drive _ s place).since aloof

theorem played_begin (aloof : Aloof s₀ s) :
    Played request s₀ (s.begin place (.turn request)).1 (s.begin place (.turn request)).2 := by
  unfold Scene.begin Scene.takeTurn
  by_cases free : s.turn.isNone
  · have taken : Aloof s₀ { s with turn := some place } := aloof.trans ⟨rfl, rfl, rfl, rfl⟩
    simpa only [free, if_true] using played_carryOut taken
  · simp only [free]
    exact ⟨rfl, aloof.trans ⟨rfl, rfl, rfl, rfl⟩⟩

theorem Played.seeTo (played : Played request s₀ s act) :
    Played request s₀ (s.seeTo place act).1 (s.seeTo place act).2 := by
  cases act with
  | ahead after r =>
    obtain ⟨rfl, aloof⟩ := played
    unfold Scene.seeTo
    dsimp only
    split
    · exact played_begin aloof
    · exact ⟨rfl, aloof.trans (.ofReordered (.cue _ _ _))⟩
  | waiting due r =>
    obtain ⟨rfl, aloof⟩ := played
    unfold Scene.seeTo
    dsimp only
    split
    · exact played_begin aloof
    · exact ⟨rfl, aloof⟩
  | inLine r =>
    obtain ⟨rfl, aloof⟩ := played
    unfold Scene.seeTo
    dsimp only
    split
    · exact played_carryOut aloof
    · exact ⟨rfl, aloof⟩
  | calling u => exact played_settleCall (follows_goOn played place)
  | resting due => exact absurd played.1 id
  | joining listeners due => exact absurd played.1 id
  | ended time finding => exact played

theorem Moment.played (moment : Moment place request s₀ s act) : Played request s₀ s act := by
  induction moment with
  | asked after => exact ⟨rfl, .refl s₀⟩
  | @seen s act before ih =>
    have unstirred : Aloof s (s.unstir place) := ⟨rfl, rfl, rfl, rfl⟩
    exact (ih.aloof unstirred).seeTo
  | worked before turns ih => exact ih.aloof (.workRound _ turns)
  | passed before time ih => exact ih.aloof (.advance _ time)

theorem seeTo_out {u : Undertaking Finding} {op : InstanceOp} {targets : List (StageKey × Handle)}
    (same : u.call = .fanOut op targets) {i : Nat}
    (out : (s.attendErrands op targets).isOut i = true) :
    s.seeTo place (.calling u) = (s.attendErrands op targets, .calling u) := by
  obtain ⟨call, fate, resume⟩ := u
  subst same
  simp [Scene.seeTo, Scene.goOn, Scene.answer?, report?_out out, Scene.settleCall]

/-- An act stands where a course of its request does: it is over, or it waits for the same call. A
fan-out has an errand for each target, and is waited for until none of them is out. -/
inductive At (place : Nat) (s : Scene) : Act → Activity RunAnswer → Prop where
  | ended (time : Nat) (run : Run) (answer : RunAnswer) :
      At place s (.ended time (.ofAnswer answer)) (.done run answer)
  | calling (u : Undertaking Finding) (run : Run) (resume : u.call.Answer → Activity RunAnswer)
      (waits : ∀ op targets, u.call = .fanOut op targets → s.errands.size = targets.length ∧
        ∀ i, ((s.unstir place).attendErrands op targets).isOut i →
          (s.unstir place).seeTo place (.calling u) =
            ((s.unstir place).attendErrands op targets, .calling u)) :
      At place s (.calling u) (.waiting run u.call resume)

theorem Moment.course (moment : Moment place request s₀ s act) :
    (act.Asks request ∧ s.run = s₀.run ∧ s.world.calls = s₀.world.calls) ∨
    ∃ log b, (request.operation s₀.run).Leads log b ∧ At place s act b ∧ s.run = b.run ∧
      s.world.calls = (b.phases log).flatten.reverse ++ s₀.world.calls ∧
      s₀.world.partitioner.TakesAll log s.world.partitioner := by
  have played := moment.played
  unfold Played at played
  split at played
  · exact .inl ⟨played.1, played.2.run, played.2.calls⟩
  · rename_i form shown
    obtain ⟨log, b', leads, stands, manned, here, calls, taken⟩ := played
    obtain ⟨b, before, rfl⟩ := Activity.map_leads_iff.mp leads
    rw [Activity.map_run] at here
    rw [Activity.map_phases] at calls
    refine .inr ⟨log, b, before, ?_, here, calls, taken⟩
    cases act with
    | ended time finding =>
      cases shown
      obtain ⟨run, finished⟩ := stands
      cases b with
      | done run' answer =>
        cases finished
        exact .ended time _ answer
      | waiting run' call resume => cases finished
    | calling u =>
      cases shown
      obtain ⟨run, waiting⟩ := stands
      cases b with
      | done run' answer => cases waiting
      | waiting run' call resume =>
        obtain ⟨call', fate, resume'⟩ := u
        simp only [Activity.bind, Activity.waiting.injEq] at waiting
        obtain ⟨rfl, rfl, _⟩ := waiting
        exact .calling _ _ resume fun op targets same =>
          ⟨manned op targets same, fun i out => seeTo_out same out⟩
    | ahead | waiting | inLine | resting | joining => cases shown

theorem settleCall_begun (now : Scene × (Undertaking Finding ⊕ Finding)) :
    (Scene.settleCall now).2.form?.isSome := by
  obtain ⟨s, u | finding⟩ := now <;> rfl

theorem seeTo_begun (begun : act.form?.isSome) : (s.seeTo place act).2.form?.isSome := by
  cases act with
  | calling u => exact settleCall_begun _
  | ended time finding => exact begun
  | ahead | waiting | inLine | resting | joining => simp [Act.form?] at begun

theorem playRounds_solo (rounds : Nat) (moment : Moment place request s₀ s act)
    (begun : act.form?.isSome) :
    ∃ s' act', Scene.playRounds rounds (.solo place act) s = (.solo place act', s') ∧
      Moment place request s₀ s' act' ∧ act'.form?.isSome := by
  induction rounds generalizing s act with
  | zero => exact ⟨s, act, rfl, moment, begun⟩
  | succ rounds ih =>
    have seen := moment.seen
    have still : ((s.unstir place).seeTo place act).2.form?.isSome := seeTo_begun begun
    unfold Scene.playRounds
    simp only [Part.depth, Part.seeTo]
    split
    · exact ⟨_, _, rfl, seen, still⟩
    · split
      · exact ih (seen.worked _) still
      · exact ih ((seen.worked _).passed _) still

theorem aloof_settle (s : Scene) : Aloof s.leave s.settle := by
  apply Scene.settle_induction (P := Aloof s.leave) (.refl _)
  · intro s' aloof
    exact aloof.trans (.workRound s' _)
  · intro s' time aloof
    exact aloof.trans (.advance s' time)

theorem seeTo_free (free : s.turn = none) :
    ((s.unstir place).seeTo place (.ahead 0 (.turn request))).2.form?.isSome := by
  have due : s.now + waitFor 0 ≤ s.now := by simp [waitFor]
  simp only [Scene.seeTo, Scene.unstir, due, if_true, Scene.begin, Scene.takeTurn, free,
    Option.isNone_none]
  exact settleCall_begun _

theorem play_solo (i : Interval) (request : RunRequest) (free : i.scene.turn = none) :
    ∃ s act, i.play (.one (.turn request)) = i.close ((Part.solo 0 act).result?.map (·.2)) s ∧
      Moment 0 request i.resume s act ∧ act.form?.isSome := by
  obtain ⟨rounds, some_rounds⟩ := Nat.exists_eq_succ_of_ne_zero
    (show Scene.roundsAhead ≠ 0 by decide)
  have asked : Moment 0 request i.resume i.resume (.ahead 0 (.turn request)) := .asked 0
  have seen := asked.seen
  have begun : ((i.resume.unstir 0).seeTo 0 (.ahead 0 (.turn request))).2.form?.isSome :=
    seeTo_free free
  have played : ∃ s act, Scene.playRounds (rounds + 1) (.solo 0 (.ahead 0 (.turn request))) i.resume =
      (.solo 0 act, s) ∧ Moment 0 request i.resume s act ∧ act.form?.isSome := by
    unfold Scene.playRounds
    simp only [Part.depth, Part.seeTo]
    split
    · exact ⟨_, _, rfl, seen, begun⟩
    · split
      · exact playRounds_solo rounds (seen.worked _) begun
      · exact playRounds_solo rounds ((seen.worked _).passed _) begun
  obtain ⟨s, act, same, moment, form⟩ := played
  refine ⟨s, act, ?_, moment, form⟩
  have step : Part.ofStep 0 0 (.one (.turn request)) = .solo 0 (.ahead 0 (.turn request)) := by
    rw [Part.ofStep]
  rw [Interval.play, step, Scene.play, some_rounds, same]

/-- The account of a step that is a request tells of a course of the request: the run stands where
the course has come to, the calls are those of the course, the partitioner has taken what it was given
in it, and what was found is its answer. -/
theorem play_follows (i : Interval) (request : RunRequest) (free : i.scene.turn = none) :
    ∃ log b, (request.operation i.scene.run).Leads log b ∧
      (i.play (.one (.turn request))).1.scene.run = b.run ∧
      (i.play (.one (.turn request))).2.calls = (b.phases log).flatten ∧
      i.scene.world.partitioner.TakesAll log (i.play (.one (.turn request))).1.scene.world.partitioner ∧
      ∀ finding, (i.play (.one (.turn request))).2.finding = some finding →
        ∃ run answer, b = .done run answer ∧ finding = .ofAnswer answer := by
  obtain ⟨s, act, same, moment, begun⟩ := play_solo i request free
  have settled := aloof_settle s
  rw [same]
  rcases moment.course with ⟨asks, _⟩ | ⟨log, b, leads, stands, here, calls, taken⟩
  · cases act <;> simp [Act.Asks, Act.form?] at asks begun
  · refine ⟨log, b, leads, settled.run.trans here, ?_, ?_, ?_⟩
    · change s.settle.world.calls.reverse = _
      rw [settled.calls]
      change s.world.calls.reverse = _
      rw [calls]
      simp [Interval.resume]
    · change i.scene.world.partitioner.TakesAll log s.settle.world.partitioner
      rw [settled.partitioner]
      exact taken
    · intro finding found
      change ((Part.solo 0 act).result?.map (·.2)) = some finding at found
      cases stands with
      | ended time run answer =>
        cases found
        exact ⟨run, answer, rfl, rfl⟩
      | calling u run resume waits => cases found

end
end FlowRuntime.Rehearsal
