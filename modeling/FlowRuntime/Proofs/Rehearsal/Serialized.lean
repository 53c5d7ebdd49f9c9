import FlowRuntime.Proofs.Rehearsal.Ensemble
import FlowRuntime.Proofs.Rehearsal.Ownership

/-!
Requests that are made at once. Steps may be made up of any number of requests, of the run and
aside, that begin after any time. We verify that the account of such a step is that of its
requests of the run carried out one after the other, in the order in which they have asked
for the run's turn; that the calls of one request come without one of another between them;
and that if the step was left before it was over, the same goes for as far as it came.
-/
namespace FlowRuntime.Rehearsal

/-- How far the request is carried out whose turn it is: not yet, or along a course of it. -/
inductive Carrying (run : Run) :
    Option (Nat × RunRequest) → List LoggedCall → List Exchange → Run → Prop where
  | idle : Carrying run none [] [] run
  | ahead (place : Nat) (request : RunRequest) : Carrying run (some (place, request)) [] [] run
  | begun {place : Nat} {request : RunRequest} {log : List Exchange} {b : Activity RunAnswer}
      (leads : (request.operation run).Leads log b) :
      Carrying run (some (place, request)) (b.phases log).flatten log b.run

def callsInTurn (series : List (Nat × Service)) : List LoggedCall :=
  (series.map fun e => callsOf e.2.log).flatten

/-- What there is to tell of a step, over or not: requests have been answered in turn, and one may be
being carried out. -/
structure InTurn (i : Interval) (step : Step) (past : List (Nat × Service))
    (current : Option (Nat × RunRequest)) (waiting : List (Nat × RunRequest)) : Prop where
  served : current = none → waiting = []
  course : ∃ run calls log, Serves i.scene.run (past.map (·.2)) run ∧
    Carrying run current calls log (i.play step).1.scene.run ∧
    (i.play step).2.calls = callsInTurn past ++ calls ∧
    i.scene.world.partitioner.TakesAll (exchanged (past.map (·.2)) ++ log)
      (i.play step).1.scene.world.partitioner

/-- A step is over, as its requests of the run have been carried out one after the other: the run, the
calls and the partitioner are as they were left, and the answers are those that were given. -/
structure Serialized (i : Interval) (step : Step) (series : List (Nat × Service))
    (finding : Finding) : Prop where
  serves : Serves i.scene.run (series.map (·.2)) (i.play step).1.scene.run
  calls : (i.play step).2.calls = callsInTurn series
  taken : i.scene.world.partitioner.TakesAll (exchanged (series.map (·.2)))
    (i.play step).1.scene.world.partitioner
  once : (series.map (·.1)).Nodup
  all : ∀ place request, ((Part.ofStep 0 0 step).cast place).request? = some (.turn request) ↔
    ∃ service, (place, service) ∈ series ∧ service.request = request
  found : ∃ found : Nat → Finding,
    finding.leaves = (Part.ofStep 0 0 step).places.map found ∧
    ∀ e ∈ series, found e.1 = .ofAnswer e.2.answer

section
variable {i : Interval} {s : Scene} {acts₀ acts : Nat → Act} {past : List (Nat × Service)}
  {current : Option (Nat × RunRequest)} {waiting : List (Nat × RunRequest)}

theorem callsOf_exchanged (series : List (Nat × Service)) :
    callsOf (exchanged (series.map (·.2))) = callsInTurn series := by
  induction series with
  | nil => rfl
  | cons e rest ih =>
    rw [List.map_cons, exchanged, List.flatMap_cons, callsOf_append]
    change _ ++ callsOf (exchanged (rest.map (·.2))) = _
    rw [ih]
    rfl

theorem Serial.carrying (serial : Serial i.resume acts₀ past current waiting s acts) :
    ∃ run calls log, Serves i.scene.run (past.map (·.2)) run ∧ Carrying run current calls log s.run ∧
      s.world.calls.reverse = callsInTurn past ++ calls ∧
      i.scene.world.partitioner.TakesAll (exchanged (past.map (·.2)) ++ log) s.world.partitioner := by
  have rested (rests : Rests i.resume (past.map (·.2)) s) :
      Serves i.scene.run (past.map (·.2)) s.run ∧ s.world.calls.reverse = callsInTurn past ++ [] ∧
        i.scene.world.partitioner.TakesAll (exchanged (past.map (·.2)) ++ [])
          s.world.partitioner := by
    refine ⟨rests.serves, ?_, ?_⟩
    · rw [rests.calls, ← callsOf_exchanged]
      simp [Interval.resume]
    · rw [List.append_nil]
      exact rests.taken
  cases serial.inHand with
  | free rests =>
    obtain ⟨serves, calls, taken⟩ := rested rests
    exact ⟨s.run, [], [], serves, .idle, calls, taken⟩
  | next rests waits =>
    obtain ⟨serves, calls, taken⟩ := rested rests
    exact ⟨s.run, [], [], serves, .ahead _ _, calls, taken⟩
  | @busy place request u busy calling =>
    obtain ⟨s₁, rests, log, b', leads, stands, _, here, calls, taken⟩ := busy
    obtain ⟨b, course, rfl⟩ := Activity.map_leads_iff.mp leads
    rw [Activity.map_run] at here
    rw [Activity.map_phases] at calls
    refine ⟨s₁.run, (b.phases log).flatten, log, rests.serves, here ▸ .begun course, ?_, ?_⟩
    · rw [calls, rests.calls, ← callsOf_exchanged]
      simp [Interval.resume]
    · exact Partitioner.takesAll_append.mpr ⟨_, rests.taken, taken⟩

theorem Serial.over (serial : Serial i.resume acts₀ past current waiting s acts)
    (ended : ∀ place request, (acts₀ place).request? = some (.turn request) →
      ∃ finding, (acts place).found? = some finding) : current = none := by
  cases current with
  | none => rfl
  | some e =>
    have mem : e ∈ turns past (some e) waiting := by simp [turns]
    obtain ⟨finding, found⟩ := ended e.1 e.2 (serial.meant e mem)
    cases serial.inHand with
    | next rests waits => simp [waits, Act.found?] at found
    | busy busy calling => simp [calling, Act.found?] at found

theorem Serial.asked (serial : Serial i.resume acts₀ past none [] s acts)
    (ended : ∀ place request, (acts₀ place).request? = some (.turn request) →
      ∃ finding, (acts place).found? = some finding) (place : Nat) (request : RunRequest) :
    (acts₀ place).request? = some (.turn request) ↔
      ∃ service, (place, service) ∈ past ∧ service.request = request := by
  constructor
  · intro meant
    obtain ⟨finding, found⟩ := ended place request meant
    by_cases among : place ∈ (turns past none []).map (·.1)
    · rcases mem_places.mp among with ⟨service, mem⟩ | ⟨r, impossible⟩ | ⟨r, impossible⟩
      · have here : (place, service.request) ∈ turns past none [] := by
          simpa [turns] using ⟨service, mem, rfl⟩
        have same := serial.meant _ here
        rw [meant] at same
        cases same
        exact ⟨service, mem, rfl⟩
      · cases impossible
      · cases impossible
    · have apart := serial.apart place among
      cases same : acts place <;> rw [same] at apart found <;> simp [Act.found?] at found
      exact absurd meant (apart.2 request)
  · rintro ⟨service, mem, rfl⟩
    have here : (place, service.request) ∈ turns past none [] := by
      simpa [turns] using ⟨service, mem, rfl⟩
    exact serial.meant _ here

theorem Serial.single (serial : Serial i.resume acts₀ past current waiting s acts) {place : Nat}
    {finding : Finding} (found : (acts place).found? = some finding) : finding.IsSingle := by
  by_cases among : place ∈ (turns past current waiting).map (·.1)
  · rcases mem_places.mp among with ⟨service, mem⟩ | ⟨r, rfl⟩ | ⟨r, mem⟩
    · obtain ⟨time, ended⟩ := serial.answered _ mem
      rw [ended] at found
      cases found
      cases service.answer <;> trivial
    · cases serial.inHand with
      | next rests waits => simp [waits, Act.found?] at found
      | busy busy calling => simp [calling, Act.found?] at found
    · simp [serial.waits _ mem, Act.found?] at found
  · have apart := serial.apart place among
    cases same : acts place <;> rw [same] at apart found <;> simp [Act.found?] at found
    exact found ▸ apart.1

theorem Serial.leaves (serial : Serial i.resume acts₀ past current waiting s acts) {p : Part}
    (embodied : Embodied p.solos acts) {result : Nat × Finding} (ended : p.result? = some result) :
    result.2.leaves.map some = p.places.map fun place => (acts place).found? := by
  have single : ∀ e ∈ p.solos, ∀ finding, e.2.found? = some finding → finding.IsSingle := by
    intro e mem finding found
    rw [← embodied e mem] at found
    exact serial.single found
  rw [← p.leaves_of_result? ended single, Part.places, List.map_map]
  apply List.map_congr_left
  intro e mem
  simp [embodied e mem]

end

def Interval.IsFree (i : Interval) : Prop := i.scene.turn = none ∧ i.scene.line = []

theorem seated_settle (s : Scene) : Seated s.leave s.settle := by
  apply Scene.settle_induction (P := Seated s.leave) (.refl _)
  · intro s' seated
    exact seated.trans (.workRound s' _)
  · intro s' time seated
    exact seated.trans (.advance s' time)

theorem Interval.free_close (i : Interval) (finding : Option Finding) (s : Scene) :
    (i.close finding s).1.IsFree :=
  ⟨(seated_settle s).turn, (seated_settle s).line⟩

theorem Plan.free_start (p : Plan) (c : RunContext) : (p.start c).1.IsFree := by
  unfold Plan.start
  dsimp only
  generalize Scene.settleCall ((p.opening c).drive 0
    ((Finding.outcome <$> Operation.start) (p.opening c).run)) = now
  obtain ⟨s, act⟩ := now
  dsimp only
  generalize s.play (.solo 0 act) = played
  exact Interval.free_close _ _ _

section
variable {i : Interval} {step : Step} {s : Scene} {acts : Nat → Act}
  {past : List (Nat × Service)} {current : Option (Nat × RunRequest)}
  {waiting : List (Nat × RunRequest)}

theorem Serial.inTurn {acts₀ : Nat → Act} {finding : Option Finding}
    (serial : Serial i.resume acts₀ past current waiting s acts)
    (closed : i.play step = i.close finding s) : InTurn i step past current waiting := by
  have settled := aloof_settle s
  have run : (i.play step).1.scene.run = s.run := by
    rw [closed]
    exact settled.run
  have calls : (i.play step).2.calls = s.world.calls.reverse := by
    rw [closed]
    change s.settle.world.calls.reverse = _
    rw [settled.calls]
    rfl
  have partitioner : (i.play step).1.scene.world.partitioner = s.world.partitioner := by
    rw [closed]
    exact settled.partitioner
  refine ⟨serial.served, ?_⟩
  rw [run, calls, partitioner]
  exact serial.carrying

theorem Serial.serialized {p : Part}
    (serial : Serial i.resume (Part.ofStep 0 0 step).cast past current waiting s acts)
    (told : InTurn i step past current waiting) (embodied : Embodied p.solos acts)
    (placed : p.places = (Part.ofStep 0 0 step).places) {result : Nat × Finding}
    (ended : p.result? = some result) :
    current = none ∧ waiting = [] ∧ Serialized i step past result.2 := by
  have leaves := serial.leaves embodied ended
  have found (place : Nat) (within : place ∈ p.places) :
      ∃ finding, (acts place).found? = some finding := by
    have mem : (acts place).found? ∈ result.2.leaves.map some := by
      rw [leaves]
      exact List.mem_map_of_mem within
    obtain ⟨finding, _, same⟩ := List.mem_map.mp mem
    exact ⟨finding, same.symm⟩
  have finished (place : Nat) (request : RunRequest)
      (meant : ((Part.ofStep 0 0 step).cast place).request? = some (.turn request)) :
      ∃ finding, (acts place).found? = some finding := by
    apply found
    rw [placed]
    by_contra outside
    rw [Part.cast_eq_of_not_mem outside] at meant
    cases meant
  obtain rfl := serial.over finished
  obtain rfl := serial.served rfl
  obtain ⟨run', calls', log, serves, carrying, called, taken⟩ := told.course
  cases carrying
  refine ⟨rfl, rfl, ?_⟩
  exact {
    serves := serves
    calls := by rw [called, List.append_nil]
    taken := by rwa [List.append_nil] at taken
    once := by
      have once := serial.once
      simpa [turns, Function.comp_def] using once
    all := serial.asked finished
    found := by
      refine ⟨fun place => (acts place).found?.getD .done, ?_, ?_⟩
      · apply List.map_injective_iff.mpr (Option.some_injective _)
        rw [leaves, placed, List.map_map]
        apply List.map_congr_left
        intro place mem
        obtain ⟨finding, same⟩ := found place (placed ▸ mem)
        simp [same]
      · intro e mem
        obtain ⟨time, same⟩ := serial.answered e mem
        simp [same, Act.found?] }

end

theorem Interval.carried_in_turn (i : Interval) (step : Step) (free : i.IsFree) :
    ∃ asked s acts, Concert i.resume (Part.ofStep 0 0 step).cast asked s acts ∧
      (i.play step).1.scene = s.settle ∧
      (∃ past current waiting, asked = turns past current waiting ∧
        InTurn i step past current waiting) ∧
      ∀ finding, (i.play step).2.finding = some finding →
        ∃ series, asked = series.map (fun e => (e.1, e.2.request)) ∧
          Serialized i step series finding := by
  obtain ⟨p, asked, s, acts, concert, embodied, placed, closed⟩ := concert_play i step
  obtain ⟨past, current, waiting, rfl, serial⟩ :=
    concert.serial free.1 free.2 (Part.ofStep_apart step)
  have told := serial.inTurn closed
  refine ⟨_, s, acts, concert, by rw [closed]; rfl, ⟨past, current, waiting, rfl, told⟩, ?_⟩
  intro finding here
  have done : p.result?.map (·.2) = some finding := by
    rw [closed] at here
    exact here
  obtain ⟨result, ended, rfl⟩ := Option.map_eq_some_iff.mp done
  obtain ⟨rfl, rfl, serialized⟩ := serial.serialized told embodied placed ended
  exact ⟨past, by simp [turns], serialized⟩

/-- In whatever order acts are seen to, requests are carried out one after the other, in the order in
which the turn was asked for; and so the account of any step is. -/
theorem play_serialized (i : Interval) (step : Step) (free : i.IsFree) :
    (∀ acts₀ asked s acts, (∀ place, (acts₀ place).IsApart) →
      Concert i.scene acts₀ asked s acts →
      ∃ past current waiting, asked = turns past current waiting ∧
        Serial i.scene acts₀ past current waiting s acts) ∧
    ∃ asked s acts, Concert i.resume (Part.ofStep 0 0 step).cast asked s acts ∧
      (i.play step).1.scene = s.settle ∧
      (∃ past current waiting, asked = turns past current waiting ∧
        InTurn i step past current waiting) ∧
      ∀ finding, (i.play step).2.finding = some finding →
        ∃ series, asked = series.map (fun e => (e.1, e.2.request)) ∧
          Serialized i step series finding := by
  constructor
  · intro acts₀ asked s acts apart concert
    exact concert.serial free.1 free.2 apart
  · exact i.carried_in_turn step free

/-! Of two instances, one cannot be reached when it is to be stopped, while callers ask for one instance
less, for a suspension and for a resumption. -/

def throng : Interval := (strayPlan.start pairContext).1

def throngStep : Step :=
  .together [(0, .one (.turn (.changeInstances "stage" 1))), (0, .one (.turn .suspend)),
    (5, .together [(0, .one (.turn .resume)), (0, .one (.aside .state))])]

theorem throng_over : (throng.play throngStep).2.finding.isSome := by decide +kernel

theorem throng_serialized :
    ∃ series finding, (throng.play throngStep).2.finding = some finding ∧
      Serialized throng throngStep series finding := by
  have free : throng.IsFree := strayPlan.free_start pairContext
  obtain ⟨finding, found⟩ := Option.isSome_iff_exists.mp throng_over
  obtain ⟨_, _, _, _, _, _, _, whole⟩ := play_serialized throng throngStep free
  obtain ⟨series, _, serialized⟩ := whole finding found
  exact ⟨series, finding, found, serialized⟩

end FlowRuntime.Rehearsal
