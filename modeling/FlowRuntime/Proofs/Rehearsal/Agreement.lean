import FlowRuntime.Proofs.Rehearsal.Clean
import FlowRuntime.Proofs.Rehearsal.Playing

/-!
What a request that nobody misses leaves behind. All that was asked for has been done then, so
the instances, the partitioner and the run agree on it, whatever they were before. When
nothing goes wrong at all, this is so after every request, for all that the run holds, and
whatever it has let go of has stopped.
-/
namespace FlowRuntime.Rehearsal
open Operation

section
variable {calm : Prop} {c : RunContext} {run run' : Run} {log : List Exchange} {w w' : World}
  {report : Report StageKey}

/-! ### One request -/

theorem returns_turned {verb : RunVerb} {allowed : List RunState} {through target : RunState}
    {op : InstanceOp}
    (returned : Returns (requiring verb allowed (turnAll through target op)) run log run' (.ok ())) :
    ∃ report, log = [⟨.fanOut op run.registry.all, report⟩] ∧ run'.registry = run.registry := by
  rcases returns_requiring.mp returned with ⟨_, went⟩ | ⟨_, _, _, failed⟩
  · obtain ⟨report, rfl, _, rfl⟩ := returns_turnAll went
    exact ⟨report, rfl, rfl⟩
  · cases failed

theorem World.AnswersAll.heeded {op : InstanceOp} {held : Registry Handle} {key : StageKey}
    {handle : Handle}
    (answers : w.AnswersAll calm [⟨.fanOut op (Registry.all held), report⟩] w')
    (clean : missed [⟨.fanOut op (Registry.all held), report⟩] = 0)
    (found : held.get? key = some handle) :
    ∃ r r', w.residents[handle]? = some r ∧ w'.residents[handle]? = some r' ∧ r'.self.key = key ∧
      r.Heeds op (.ok ()) r' := by
  obtain ⟨v, answered, last⟩ := answers
  have listed : (key, handle) ∈ Registry.all held := SortedMap.mem_entries.mpr found
  obtain ⟨r, there, here⟩ := answered.1.there _ listed
  obtain ⟨r₁, found₁, _, asked⟩ := answered.heeded (by simpa [missed, Exchange.missed] using clean)
    handle r there
  obtain ⟨r', found', kept⟩ := World.Keeps.each last handle r₁ found₁
  have heeds := (asked (List.mem_map_of_mem listed)).keeps kept
  exact ⟨r, r', there, found', heeds.misses.key.trans here, heeds⟩

theorem World.AnswersAll.lasting (answers : w.AnswersAll calm log w') {handle : Handle}
    {r r' : Resident} (known : w.residents[handle]? = some r)
    (found : w'.residents[handle]? = some r') :
    r'.self.key = r.self.key ∧ (r.self.state = .stopped → r'.self.state = .stopped) := by
  obtain ⟨r₁, found₁, key⟩ := answers.key handle r known
  obtain ⟨r₂, found₂, stays⟩ := answers.stopped handle r known
  rw [found] at found₁ found₂
  cases found₁
  cases found₂
  exact ⟨key, stays⟩

/-- A stage has been given a number of instances: those it has now know it and are alive, and those
that it had to let go of have stopped. Nobody else has noticed, and nobody is there who is not held. -/
structure Resettled (run run' : Run) (stage : String) (target : Nat) (w w' : World) : Prop where
  kept : ∀ key handle, run'.registry.get? key = some handle → key.stage = stage →
    ∃ r, w'.residents[handle]? = some r ∧ r.mail = [] ∧ r.self = ⟨key, .alive, target⟩
  removed : ∀ key handle, run.registry.get? key = some handle → key.stage = stage →
    target ≤ key.instanceId →
    ∃ r, w'.residents[handle]? = some r ∧ r.self.key = key ∧ r.self.state = .stopped
  others : ∀ (handle : Handle) r, w.residents[handle]? = some r →
    run.registry.get? r.self.key ≠ some handle ∨ r.self.key.stage ≠ stage →
    ∃ r', w'.residents[handle]? = some r' ∧ r.Keeps r'
  fresh : ∀ (handle : Handle) r', w'.residents[handle]? = some r' → w.residents[handle]? = none →
    run'.registry.get? r'.self.key = some handle

section
variable {spec : StageSpec} {target : Nat}

theorem registered_of_new {registry : Registry Handle}
    (staffed : Registry.Numbered run.registry (Registry.liveCount run.registry))
    (work : Reshaped run spec (Registry.liveCount run.registry spec.name) target log registry (.ok ()))
    (answers : w.AnswersAll calm log w') {handle : Handle} {r' : Resident}
    (found : w'.residents[handle]? = some r') (new : w.residents[handle]? = none) :
    registry.get? r'.self.key = some handle := by
  rcases answers.gave found with ⟨r, old⟩ | ⟨options, same, mem⟩
  · rw [new] at old
    cases old
  · exact (work.get?_eq_some_iff staffed).mpr (.inr ⟨options, same, mem⟩)

theorem resettled_of_grown {log' : List Exchange} {begun : List (StageKey × Handle)}
    (staffed : Registry.Numbered run.registry (Registry.liveCount run.registry))
    (more : Registry.liveCount run.registry spec.name < target)
    (around : Regrouped run.context spec.name (Registry.stage run.registry spec.name) target log (.ok ()))
    (started : Started run.context
      (Opening.ofStage spec target (target - Registry.liveCount run.registry spec.name)
        (Registry.liveCount run.registry spec.name)) log' begun (.ok ()))
    (answers : w.AnswersAll calm (log ++ log') w') (clean : missed (log ++ log') = 0) :
    Resettled run (run.reshaped (run.registry.insertAll begun) (missed (log ++ log'))) spec.name
      target w w' := by
  have work := Reshaped.grown more around started
  obtain ⟨v, before, after⟩ := World.answersAll_append.mp answers
  have quiet : missed log = 0 := by
    rw [missed_append] at clean
    omega
  have each := around.settled before quiet
  have knows := around.knows before
  obtain ⟨onward, there⟩ := started.settled after
  constructor
  case kept =>
    intro key handle found here
    rcases (work.get?_eq_some_iff staffed).mp found with ⟨old, _⟩ | ⟨options, same, mem⟩
    · have listed : (key, handle) ∈ Registry.stage run.registry spec.name :=
        Registry.mem_stage.mpr ⟨here, old⟩
      obtain ⟨r, known, rfl⟩ := knows.there _ listed
      obtain ⟨r₁, found₁, _, asked⟩ := each handle r known
      obtain ⟨r₂, found₂, kept⟩ := onward handle r₁ found₁
      obtain ⟨read, self⟩ := asked (List.mem_map_of_mem listed)
      exact ⟨r₂, found₂, kept.read read, (kept.self read).trans self⟩
    · have begun : (key, handle) ∈ begun := started.mem_begun_iff.mpr ⟨options, same,
        (List.mem_append.mp mem).resolve_left around.not_started⟩
      obtain ⟨o, opened, _, r, found, read, self⟩ := there key handle begun
      obtain ⟨id, _, rfl⟩ := Opening.mem_ofStage.mp opened
      exact ⟨r, found, read, self⟩
  case removed =>
    intro key handle found here beyond
    have within := staffed.lt_of_held found
    rw [here] at within
    omega
  case others =>
    intro handle r known apart
    obtain ⟨r₁, found₁, kept, _⟩ := each handle r known
    obtain ⟨r₂, found₂, kept'⟩ := onward handle r₁ found₁
    refine ⟨r₂, found₂, (kept ?_).trans kept'⟩
    rw [knows.mem_iff known, Registry.mem_stage]
    tauto
  case fresh => exact fun handle r' => registered_of_new staffed work answers

theorem resettled_of_shrunk
    (staffed : Registry.Numbered run.registry (Registry.liveCount run.registry))
    (fewer : ¬ Registry.liveCount run.registry spec.name < target)
    (around : Regrouped run.context spec.name
      (Registry.stage (run.remaining spec.name (Registry.liveCount run.registry spec.name) target)
        spec.name) target log (.ok ()))
    (answers : w.AnswersAll calm (⟨.fanOut .stop
      (excess spec.name (Registry.liveCount run.registry spec.name) target run), report⟩ :: log) w')
    (stopped : report.failed = []) (clean : missed log = 0) (failures : Nat) :
    Resettled run (run.reshaped
      (run.remaining spec.name (Registry.liveCount run.registry spec.name) target) failures)
      spec.name target w w' := by
  have work := Reshaped.shrunk fewer report around
  have whole := answers
  obtain ⟨v, first, others⟩ := whole
  have each := around.settled others clean
  have knows := around.knows others
  have left := get?_remaining staffed spec.name target
  constructor
  case kept =>
    intro key handle found here
    have listed : (key, handle) ∈ Registry.stage
        (run.remaining spec.name (Registry.liveCount run.registry spec.name) target) spec.name :=
      Registry.mem_stage.mpr ⟨here, found⟩
    obtain ⟨r, known, rfl⟩ := knows.there _ listed
    obtain ⟨r', found', _, asked⟩ := each handle r known
    obtain ⟨read, self⟩ := asked (List.mem_map_of_mem listed)
    exact ⟨r', found', read, self⟩
  case removed =>
    intro key handle found here beyond
    have within := staffed.lt_of_held found
    rw [here] at within
    have listed := mem_excess.mpr ⟨here, ⟨beyond, within⟩, found⟩
    obtain ⟨r, known, rfl⟩ := first.1.there _ listed
    obtain ⟨r₁, found₁, _, asked⟩ := first.heeded stopped handle r known
    have heeds := asked (List.mem_map_of_mem listed)
    obtain ⟨r', found', same⟩ := others.key handle r₁ found₁
    have stays := (others.lasting found₁ found').2
    exact ⟨r', found', same.trans heeds.misses.key, stays heeds.responds.of_stop⟩
  case others =>
    intro handle r known apart
    obtain ⟨r₁, found₁, kept, _⟩ := first.heeded stopped handle r known
    have unasked := kept (by
      rw [first.1.mem_iff known, mem_excess]
      tauto)
    obtain ⟨r₂, found₂, kept', _⟩ := each handle r₁ found₁
    refine ⟨r₂, found₂, unasked.trans (kept' ?_)⟩
    rw [knows.mem_iff found₁, unasked.key, Registry.mem_stage, left]
    split
    · simp
    · tauto
  case fresh => exact fun handle r' => registered_of_new staffed work answers

theorem resettled_of_reshaped {registry : Registry Handle}
    (staffed : Registry.Numbered run.registry (Registry.liveCount run.registry))
    (work : Reshaped run spec (Registry.liveCount run.registry spec.name) target log registry (.ok ()))
    (answers : w.AnswersAll calm log w') (clean : missed log = 0) :
    Resettled run (run.reshaped registry (missed log)) spec.name target w w' := by
  cases work with
  | grown more around started =>
    exact resettled_of_grown staffed more around started answers clean
  | shrunk fewer stopped around =>
    have quiet := clean
    simp only [missed, Exchange.missed, Nat.add_eq_zero_iff, List.length_eq_zero_iff] at quiet
    exact resettled_of_shrunk staffed fewer around answers quiet.1 quiet.2 _

end

theorem World.Answers.takes {e : Exchange} (answers : w.Answers calm e w') :
    w.partitioner.Takes e w'.partitioner := by
  have assigned {groups : List ConsumerGroup} {answer : Outcome}
      (assigns : World.Assigns calm w.partitioner groups answer w'.partitioner) :
      (w'.partitioner, answer) = w.partitioner.bind groups ∨
        w'.partitioner = w.partitioner ∧ ∃ e, answer = .error e :=
    assigns.imp_right (·.2)
  obtain ⟨call, answer⟩ := e
  cases call with
  | bind groups => exact assigned answers.2.2
  | repartition group => exact assigned answers.2.2
  | start options =>
    cases answer with
    | error e => exact answers.1.partitioner
    | ok handle => exact answers.2.2.2.1
  | fanOut op targets => exact answers.2.2.1

theorem World.AnswersAll.takesAll (answers : w.AnswersAll calm log w') :
    w.partitioner.TakesAll log w'.partitioner := by
  induction log generalizing w with
  | nil => exact World.Keeps.partitioner answers
  | cons e rest ih =>
    obtain ⟨v, first, others⟩ := answers
    exact ⟨_, first.takes, ih others⟩

/-! ### A run that nothing goes wrong in -/

/-- The instances, the partitioner and the run agree: all that are held are alive or suspended with the
run and know how many there are of their stage, all others have stopped, and so many partitions are
assigned of every queue. -/
structure Agrees (c : RunContext) (run : Run) (w : World) : Prop where
  held : ∀ key handle, run.registry.get? key = some handle →
    ∃ r, w.residents[handle]? = some r ∧ r.mail = [] ∧
      r.self = ⟨key, if run.state = .suspended then .suspended else .alive,
        Registry.liveCount run.registry key.stage⟩
  gone : ∀ (handle : Handle) r, w.residents[handle]? = some r →
    run.registry.get? r.self.key ≠ some handle → r.self.state = .stopped
  partitioned : run.state = .alive ∨ run.state = .suspended → ∀ stage ∈ c.flow.stageNames,
    ∀ queue ∈ c.binding.queues stage,
      w.partitioner.partitions? queue (groupId c.run.program stage) =
        some (Registry.liveCount run.registry stage)

def Distinct (c : RunContext) : Prop := (c.flow.stageNames.map (groupId c.run.program)).Nodup

theorem Agrees.keeps (agrees : Agrees c run w) (kept : w.Keeps w') : Agrees c run w' where
  held := by
    intro key handle found
    obtain ⟨r, there, read, self⟩ := agrees.held key handle found
    obtain ⟨r', there', keeps⟩ := kept.each handle r there
    exact ⟨r', there', keeps.read read, (keeps.self read).trans self⟩
  gone := by
    intro handle r' found apart
    obtain ⟨r, there, keeps⟩ := kept.exists_before found
    exact keeps.stopped (agrees.gone handle r there (keeps.key ▸ apart))
  partitioned := kept.partitioner ▸ agrees.partitioned

theorem World.AnswersAll.before_or_gave (answers : w.AnswersAll calm log w') {handle : Handle}
    {r' : Resident} (found : w'.residents[handle]? = some r') :
    (∃ r, w.residents[handle]? = some r ∧ r'.self.key = r.self.key ∧
      (r.self.state = .stopped → r'.self.state = .stopped)) ∨ Gave log r'.self.key handle := by
  rcases answers.gave found with ⟨r, old⟩ | gave
  · exact .inl ⟨r, old, answers.lasting old found⟩
  · exact .inr gave

theorem Agrees.able (agrees : Agrees c run w) {op : InstanceOp} (others : ∀ n, op ≠ .command n)
    {targets : List (StageKey × Handle)}
    (registered : ∀ t ∈ targets, run.registry.get? t.1 = some t.2) :
    ∀ t ∈ targets, ∀ r, w.residents[t.2]? = some r → r.ahead.Able op := by
  intro t mem r found
  obtain ⟨r', there, read, self⟩ := agrees.held t.1 t.2 (registered t mem)
  rw [found] at there
  cases there
  rw [Resident.ahead_of_read read, self]
  refine ⟨?_, fun n same => absurd same (others n)⟩
  by_cases suspended : run.state = .suspended <;> simp [suspended]

theorem Agrees.clean_all (agrees : Agrees c run w) {op : InstanceOp} (others : ∀ n, op ≠ .command n)
    (answers : w.AnswersAll calm [⟨.fanOut op run.registry.all, report⟩] w') (still : calm) :
    missed [⟨.fanOut op run.registry.all, report⟩] = 0 := by
  obtain ⟨v, answered, _⟩ := answers
  have clean := answered.clean still (agrees.able others fun t mem => SortedMap.mem_entries.mp mem)
  simp [missed, Exchange.missed, clean]

theorem Agrees.turned (agrees : Agrees c run w) {op : InstanceOp} {state : InstanceState}
    (others : ∀ n, op ≠ .command n)
    (does : ∀ i i', LocalInstance.Responds i op i' (.ok ()) → i'.state = state ∧ i'.told = i.told)
    (answers : w.AnswersAll calm [⟨.fanOut op run.registry.all, report⟩] w') (still : calm)
    (going : run.state = .alive ∨ run.state = .suspended) (registry : run'.registry = run.registry)
    (stands : state = if run'.state = .suspended then .suspended else .alive) : Agrees c run' w' where
  held := by
    intro key handle found
    rw [registry] at found ⊢
    obtain ⟨r, r', there, there', same, heeds⟩ :=
      answers.heeded (agrees.clean_all others answers still) found
    obtain ⟨r₀, there₀, read, self⟩ := agrees.held key handle found
    rw [there] at there₀
    cases there₀
    obtain ⟨turned, told⟩ := does _ _ heeds.responds
    refine ⟨r', there', heeds.read, LocalInstance.eq_mk same (turned.trans stands) ?_⟩
    rw [told, Resident.ahead_of_read read, self]
  gone := by
    intro handle r' found apart
    rw [registry] at apart
    rcases answers.before_or_gave found with ⟨r, old, key, stays⟩ | ⟨options, _, mem⟩
    · exact stays (agrees.gone handle r old (key ▸ apart))
    · simp at mem
  partitioned := by
    intro _ stage declared queue consumed
    obtain ⟨v, answered, last⟩ := answers
    rw [registry, World.Keeps.partitioner last, answered.2.2.1]
    exact agrees.partitioned going stage declared queue consumed

theorem Agrees.wound (agrees : Agrees c run w)
    (answers : w.AnswersAll calm [⟨.fanOut .stop run.registry.all, report⟩] w') (still : calm)
    (emptied : run'.registry = .empty) (ended : run'.state ≠ .alive ∧ run'.state ≠ .suspended) :
    Agrees c run' w' where
  held := by
    intro key handle found
    rw [emptied] at found
    cases found
  gone := by
    intro handle r' found _
    rcases answers.before_or_gave found with ⟨r, old, key, stays⟩ | ⟨options, _, mem⟩
    · by_cases held : run.registry.get? r.self.key = some handle
      · obtain ⟨_, r₁, _, there, _, heeds⟩ :=
          answers.heeded (agrees.clean_all (by simp) answers still) held
        rw [found] at there
        cases there
        exact heeds.responds.of_stop
      · exact stays (agrees.gone handle r old held)
    · simp at mem
  partitioned going := by
    rcases going with alive | suspended
    · exact absurd alive ended.1
    · exact absurd suspended ended.2

theorem Agrees.awake (agrees : Agrees c run w) (alive : run.state = .alive) {key : StageKey}
    {handle : Handle} (found : run.registry.get? key = some handle) {r : Resident}
    (there : w.residents[handle]? = some r) :
    r.mail = [] ∧ r.self.state = .alive ∧ r.self.key = key := by
  obtain ⟨r', there', read, self⟩ := agrees.held key handle found
  rw [there] at there'
  cases there'
  exact ⟨read, by simp [self, alive], by rw [self]⟩

theorem Agrees.awake_remaining {stage : String} {target : Nat} (agrees : Agrees c run w)
    (alive : run.state = .alive)
    (staffed : Registry.Numbered run.registry (Registry.liveCount run.registry))
    (first : w.Answers calm
      ⟨.fanOut .stop (excess stage (Registry.liveCount run.registry stage) target run), report⟩ w')
    (clean : report.failed = []) {key : StageKey} {handle : Handle}
    (left : (key, handle) ∈ Registry.stage
      (run.remaining stage (Registry.liveCount run.registry stage) target) stage)
    {r : Resident} (there : w'.residents[handle]? = some r) :
    r.mail = [] ∧ r.self.state = .alive ∧ r.self.key.instanceId < target := by
  obtain ⟨here, found⟩ := Registry.mem_stage.mp left
  rw [get?_remaining staffed] at found
  split at found
  · cases found
  · rename_i within
    obtain ⟨r₀, known, _⟩ := agrees.held key handle found
    obtain ⟨read, state, same⟩ := agrees.awake alive found known
    obtain ⟨r₁, found₁, kept, _⟩ := first.heeded clean handle r₀ known
    rw [there] at found₁
    cases found₁
    have keeps := kept (by
      rw [first.1.mem_iff known, same, mem_excess]
      exact fun excessive => within ⟨here, excessive.2.1.1⟩)
    refine ⟨keeps.read read, by rw [keeps.self read, state], ?_⟩
    rw [keeps.key, same]
    exact Nat.lt_of_not_le fun beyond => within ⟨here, beyond⟩

theorem Agrees.smooth {spec : StageSpec} {target : Nat} {registry : Registry Handle} {x : Outcome}
    (agrees : Agrees c run w) (alive : run.state = .alive) (some_instances : target ≠ 0)
    (staffed : Registry.Numbered run.registry (Registry.liveCount run.registry))
    (work : Reshaped run spec (Registry.liveCount run.registry spec.name) target log registry x)
    (answers : w.AnswersAll calm log w') (still : calm) : x = .ok () ∧ missed log = 0 := by
  have able (more : Registry.liveCount run.registry spec.name < target) :
      ∀ t ∈ Registry.stage run.registry spec.name, ∀ r, w.residents[t.2]? = some r →
        r.mail = [] ∧ r.self.state = .alive ∧ r.self.key.instanceId < target := by
    intro t mem r there
    obtain ⟨here, found⟩ := Registry.mem_stage.mp mem
    obtain ⟨read, state, key⟩ := agrees.awake alive found there
    have within := staffed.lt_of_held found
    rw [here] at within
    exact ⟨read, state, by rw [key]; omega⟩
  cases work with
  | kept more around => exact around.smooth answers still some_instances (able more)
  | grown more around started =>
    obtain ⟨v, before, after⟩ := World.answersAll_append.mp answers
    obtain ⟨_, clean⟩ := around.smooth before still some_instances (able more)
    refine ⟨started.smooth after still ?_, ?_⟩
    · intro o opened
      obtain ⟨id, bounds, rfl⟩ := Opening.mem_ofStage.mp opened
      change id < target
      omega
    · rw [missed_append, clean, started_missed started]
  | shrunk fewer stopped around =>
    obtain ⟨v, first, others⟩ := answers
    have clean := first.clean still (agrees.able (by simp) fun t mem => (mem_excess.mp mem).2.2)
    obtain ⟨granted, rest⟩ := around.smooth others still some_instances
      fun t mem r there => agrees.awake_remaining alive staffed first clean mem there
    refine ⟨granted, ?_⟩
    rw [missed, rest]
    simp [Exchange.missed, clean]

section
variable {spec : StageSpec} {target : Nat}

theorem Agrees.held_resized (agrees : Agrees c run w) (alive : run.state = .alive)
    (resized : Resized c run spec target log run')
    (resettled : Resettled run run' spec.name target w w') {key : StageKey} {handle : Handle}
    (found : run'.registry.get? key = some handle) :
    ∃ r, w'.residents[handle]? = some r ∧ r.mail = [] ∧
      r.self = ⟨key, if run'.state = .suspended then .suspended else .alive,
        Registry.liveCount run'.registry key.stage⟩ := by
  have awake : run'.state ≠ .suspended := by simp [resized.alive]
  rw [if_neg awake]
  by_cases here : key.stage = spec.name
  · obtain ⟨r, there, read, self⟩ := resettled.kept key handle found here
    exact ⟨r, there, read, by rw [self, here, resized.liveCount]⟩
  · rw [resized.get?_others here] at found
    obtain ⟨r, known, read, self⟩ := agrees.held key handle found
    obtain ⟨r', there, kept⟩ := resettled.others handle r known (.inr (by rw [self]; exact here))
    refine ⟨r', there, kept.read read, ?_⟩
    rw [kept.self read, self, if_neg (by simp [alive]), resized.liveCount_others here]

theorem Agrees.gone_resized (agrees : Agrees c run w)
    (staffed : Registry.Numbered run.registry (Registry.liveCount run.registry))
    (resized : Resized c run spec target log run')
    (resettled : Resettled run run' spec.name target w w') (answers : w.AnswersAll calm log w')
    {handle : Handle} {r' : Resident} (found : w'.residents[handle]? = some r')
    (apart : run'.registry.get? r'.self.key ≠ some handle) : r'.self.state = .stopped := by
  cases known : w.residents[handle]? with
  | none => exact absurd (resettled.fresh handle r' found known) apart
  | some r =>
    obtain ⟨key, stays⟩ := answers.lasting known found
    rw [key] at apart
    by_cases held : run.registry.get? r.self.key = some handle
    · obtain ⟨here, beyond⟩ := resized.beyond staffed held apart
      obtain ⟨r₁, there, _, stopped⟩ := resettled.removed _ handle held here beyond
      rw [found] at there
      cases there
      exact stopped
    · exact stays (agrees.gone handle r known held)

theorem Agrees.partitioned_resized (agrees : Agrees c run w) (distinct : Distinct c)
    (alive : run.state = .alive) (declared : spec.name ∈ c.flow.stageNames)
    (resized : Resized c run spec target log run') (answers : w.AnswersAll calm log w')
    {stage : String} (mem : stage ∈ c.flow.stageNames) {queue : QueueName}
    (consumed : queue ∈ c.binding.queues stage) :
    w'.partitioner.partitions? queue (groupId c.run.program stage) =
      some (Registry.liveCount run'.registry stage) := by
  obtain ⟨_, own, apart⟩ := resized.partitioned _ _ answers.takesAll
  by_cases here : stage = spec.name
  · subst here
    rw [own queue consumed, resized.liveCount]
  · have other : groupId c.run.program stage ≠ groupId c.run.program spec.name :=
      fun same => here (List.inj_on_of_nodup_map distinct mem declared same)
    rw [apart queue _ other, resized.liveCount_others here]
    exact agrees.partitioned (.inl alive) stage mem queue consumed

theorem Agrees.rescaled {stage : String} {x : Outcome} (distinct : Distinct c) (sound : Sound c run)
    (agrees : Agrees c run w) (due : Due run stage target spec)
    (course : Rescaled run spec (Registry.liveCount run.registry stage) target log run' x)
    (answers : w.AnswersAll calm log w') (still : calm) : Agrees c run' w' := by
  have staffed := sound.staffed (.inl due.alive)
  have declared : spec.name ∈ c.flow.stageNames :=
    sound.context ▸ List.mem_map_of_mem (FlowSpec.mem_of_stage? due.found)
  obtain rfl := FlowSpec.name_of_stage? due.found
  cases course with
  | failed work report =>
    obtain ⟨v, before, _⟩ := World.answersAll_append.mp answers
    have granted := (agrees.smooth due.alive due.some_instances staffed.keys work before still).1
    cases granted
  | complete work =>
    obtain ⟨_, clean⟩ := agrees.smooth due.alive due.some_instances staffed.keys work answers still
    have resettled := resettled_of_reshaped staffed.keys work answers clean
    have resized := work.resized staffed sound.context due.alive due.some_instances
    exact {
      held := fun key handle => agrees.held_resized due.alive resized resettled
      gone := fun handle r' => agrees.gone_resized staffed.keys resized resettled answers
      partitioned := fun _ stage mem queue =>
        agrees.partitioned_resized distinct due.alive declared resized answers mem }

end

/-! ### Whole rehearsals -/

theorem agrees_start (accepted : c.flow.Accepted) (distinct : Distinct c)
    (returned : Returns start (.starting c) log run (.ok ()))
    (answers : World.vacant.AnswersAll calm log w) : Agrees c run w := by
  generalize same : (Except.ok () : Outcome) = x at returned
  cases returns_start returned with
  | unbound e => cases same
  | withdrawn started report => cases same
  | @complete log begun started =>
    have numbered := started_numbered accepted started
    have nodup : (begun.map (·.1)).Nodup :=
      started.keys_prefix.sublist.nodup (ofStages_keys_nodup accepted.names_nodup)
    have placed {key : StageKey} {handle : Handle} :
        (SortedMap.empty.insertAll begun).get? key = some handle ↔ (key, handle) ∈ begun :=
      (SortedMap.get?_insertAll_eq_some_iff _ nodup fun _ _ => rfl).trans (or_iff_right (by simp))
    obtain ⟨v, ⟨nobody, _, assigned⟩, others⟩ := answers
    obtain ⟨_, there⟩ := started.settled others
    refine ⟨?_, ?_, ?_⟩
    · intro key handle found
      obtain ⟨o, opened, rfl, r, present, read, self⟩ := there key handle (placed.mp found)
      refine ⟨r, present, read, self.trans ?_⟩
      obtain ⟨spec, declared, mem⟩ := List.mem_flatMap.mp opened
      obtain ⟨id, _, rfl⟩ := Opening.mem_ofStage.mp mem
      have count := (numbered.liveCount spec.name).trans (accepted.declared_name declared)
      have awake : (((Run.starting c).holdAll begun).publish.transition .alive none).state ≠
          .suspended := by simp [Run.transition]
      rw [if_neg awake]
      exact congrArg (LocalInstance.mk _ _) count.symm
    · intro handle r found apart
      rcases others.before_or_gave found with ⟨r₀, old, _⟩ | gave
      · have within := (Array.getElem?_eq_some_iff.mp old).1
        rw [nobody] at within
        exact absurd within (Nat.not_lt_zero handle)
      · exact absurd (placed.mpr (started.mem_begun_iff.mpr gave)) apart
    · intro _ stage declared queue consumed
      obtain ⟨spec, mem, rfl⟩ := List.mem_map.mp declared
      have count := (numbered.liveCount spec.name).trans (accepted.declared_name mem)
      have bound : v.partitioner = (World.vacant.partitioner.bind c.consumerGroups).1 := by
        rcases assigned with answered | ⟨_, _, e, failed⟩
        · exact congrArg Prod.fst answered
        · cases failed
      have kept : w.partitioner = v.partitioner := started.takesAll others.takesAll
      rw [kept, bound]
      have assigned := Partitioner.partitions?_bind_of_mem (p := World.vacant.partitioner)
        (Binding.consumerGroups_busy accepted) (Binding.consumerGroups_ids.nodup distinct)
        (Binding.mem_consumerGroups mem consumed) consumed
      exact assigned.trans (congrArg some count.symm)

theorem Agrees.step (distinct : Distinct c) (sound : Sound c run) (agrees : Agrees c run w)
    (carried : Carried run log run') (answers : w.AnswersAll calm log w') (still : calm) :
    Agrees c run' w' := by
  cases carried with
  | idle => exact agrees.keeps answers
  | suspended alive report =>
    exact agrees.turned (by simp) (fun _ _ responds => responds.of_suspend) answers still (.inl alive)
      rfl (by simp [Run.transition])
  | resumed suspended report =>
    exact agrees.turned (by simp) (fun _ _ responds => responds.of_resume) answers still
      (.inr suspended) rfl (by simp [Run.transition])
  | stopped going report =>
    exact agrees.wound answers still rfl (by simp [Run.transition])
  | rescaled due course => exact agrees.rescaled distinct sound due course answers still

theorem Rehearsed.agrees {s : Scene} (accepted : c.flow.Accepted) (distinct : Distinct c)
    (rehearsed : Rehearsed calm c log s) (still : calm) : Agrees c s.run s.world := by
  induction rehearsed with
  | @started s₀ s s' log run blank course reordered =>
    have told := (Rehearsed.started blank course reordered).told accepted
    have here : s'.record.run = run :=
      (Aloof.listen s' _).run.trans (reordered.run.trans (Aloof.see s run).run)
    rw [here]
    exact agrees_start accepted distinct course.leads told.answers
  | @answered s₀ s log log' request run answer before course ih =>
    have told := before.told accepted
    obtain ⟨v, answers, resting⟩ := course.underway told.fit (told.addressed accepted request)
    have onward := Resting.moved resting (Unmoved.see s run).toUnread
    have here : (s.see run).run = run := (Aloof.see s run).run
    rw [here]
    exact (ih.step distinct (sound_of_accepted accepted told.reached) (returns_request course.leads)
      answers still).keeps onward.keeps
  | between before step ih =>
    obtain ⟨run, resting⟩ := step.resting (before.told accepted).fit
    exact run ▸ ih.keeps resting.keeps

theorem held_after {op : InstanceOp} {verb : RunVerb} {allowed : List RunState}
    {through target : RunState} {s₀ s : Scene} {log' : List Exchange} {request : RunRequest}
    (accepted : c.flow.Accepted) (before : Rehearsed calm c log s₀)
    (means : request.operation =
      RunAnswer.outcome <$> requiring verb allowed (turnAll through target op))
    (course : Staged calm (request.operation s₀.run) s₀ log' (.done run (.outcome (.ok ()))) none s)
    (clean : missed log' = 0) {key : StageKey} {handle : Handle}
    (found : run.registry.get? key = some handle) :
    ∃ i r, s.world.residents[handle]? = some r ∧ r.self.key = key ∧
      LocalInstance.Responds i op r.self (.ok ()) := by
  have told := before.told accepted
  obtain ⟨v, answers, resting⟩ := course.underway told.fit (told.addressed accepted request)
  have leads := course.leads
  rw [means] at leads
  obtain ⟨x, returned, same⟩ := returns_outcome leads
  cases same
  obtain ⟨report, rfl, registry⟩ := returns_turned returned
  rw [registry] at found
  obtain ⟨r₀, r₁, _, there, here, heeds⟩ := answers.heeded clean found
  obtain ⟨r, found', kept⟩ := (Resting.keeps resting).each handle r₁ there
  exact ⟨_, r, found', kept.key.trans here, (heeds.keeps kept).responds⟩

/-- Whatever has failed before, a request that nobody misses brings the instances, the partitioner and
the run into agreement on what it was about; and if nothing is planned to go wrong, all agree
after every request. -/
theorem agreement_of_made {program : Program} {options : RunOptions}
    (made : RunContext.ofProgram program options = .ok c) (distinct : Distinct c) :
    (∀ log log' s₀ s run, Rehearsed calm c log s₀ →
      Staged calm (RunRequest.suspend.operation s₀.run) s₀ log' (.done run (.outcome (.ok ()))) none s →
      missed log' = 0 → ∀ key handle, run.registry.get? key = some handle →
        ∃ r, s.world.residents[handle]? = some r ∧ r.self.key = key ∧ r.self.state = .suspended) ∧
    (∀ log log' s₀ s run, Rehearsed calm c log s₀ →
      Staged calm (RunRequest.resume.operation s₀.run) s₀ log' (.done run (.outcome (.ok ()))) none s →
      missed log' = 0 → ∀ key handle, run.registry.get? key = some handle →
        ∃ r, s.world.residents[handle]? = some r ∧ r.self.key = key ∧ r.self.state = .alive) ∧
    (∀ log log' s₀ s run stage target spec, Rehearsed calm c log s₀ →
      Due s₀.run stage target spec →
      Staged calm ((RunRequest.changeInstances stage target).operation s₀.run) s₀ log'
        (.done run (.outcome (.ok ()))) none s → missed log' = 0 →
      Registry.instanceIds run.registry stage = List.range target ∧
      Resettled s₀.run run stage target s₀.world s.world ∧
      ∀ queue ∈ c.binding.queues stage,
        s.world.partitioner.partitions? queue (groupId c.run.program stage) = some target) ∧
    ∀ (p : Plan) requests, p.faults = [] → p.limit ≠ some 0 → p.Answered c requests →
      Agrees c (p.asked c requests).1.scene.run (p.asked c requests).1.scene.world := by
  have accepted := RunContext.accepted_of_ofProgram made
  refine ⟨?_, ?_, ?_, ?_⟩
  · intro log log' s₀ s run before course clean key handle found
    have means : RunRequest.suspend.operation = RunAnswer.outcome <$>
      requiring .suspend [.alive] (turnAll .suspending .suspended .suspend) := rfl
    obtain ⟨i, r, there, here, responds⟩ := held_after accepted before means course clean found
    exact ⟨r, there, here, responds.of_suspend.1⟩
  · intro log log' s₀ s run before course clean key handle found
    have means : RunRequest.resume.operation = RunAnswer.outcome <$>
      requiring .resume [.suspended] (turnAll .resuming .alive .resume) := rfl
    obtain ⟨i, r, there, here, responds⟩ := held_after accepted before means course clean found
    exact ⟨r, there, here, responds.of_resume.1⟩
  · intro log log' s₀ s run stage target spec before due course clean
    have told := before.told accepted
    have sound := sound_of_accepted accepted told.reached
    have staffed := sound.staffed (.inl due.alive)
    obtain ⟨v, answers, resting⟩ :=
      course.underway told.fit (told.addressed accepted (.changeInstances stage target))
    replace answers := answers.keeps (Resting.keeps resting)
    obtain ⟨x, returned, same⟩ := returns_outcome course.leads
    cases same
    obtain rfl := FlowSpec.name_of_stage? due.found
    rw [Returns, changeInstances_due due] at returned
    cases returns_rescale returned with
    | complete work =>
      have resized := work.resized staffed sound.context due.alive due.some_instances
      exact ⟨resized.ids, resettled_of_reshaped staffed.keys work answers clean,
        (resized.partitioned _ _ answers.takesAll).2.1⟩
  · intro p requests faultless patient answered
    have easy : True → p.faults = [] ∧ p.limit ≠ some 0 := fun _ => ⟨faultless, patient⟩
    obtain ⟨log, paused⟩ := p.paused_asked requests accepted easy answered
    exact paused.rehearsed.agrees accepted distinct trivial

end

/-! A stage of two instances that consumes a stream: it shrinks, is suspended and resumed, and grows. -/

def fedFlow : FlowSpec := ⟨"flow", [⟨"stage", 2, .empty⟩], [⟨.stream "events", "stage", "out"⟩]⟩

def fedContext : RunContext := ⟨⟨loneProgram.id, loneOptions.runId⟩, fedFlow, loneOptions⟩

def fedPlan : Plan where
  program := ⟨loneProgram.id, ⟨"default", "app", [fedFlow]⟩⟩
  options := loneOptions
  clock := fun _ => 0
  limit := some 1000
  policy := ⟨1, 0⟩
  faults := []
  refuses := fun _ => false
  delays := fun _ => some 0
  store := none
  listeners := []
  steps := []

def fedRequests : List RunRequest :=
  [.changeInstances "stage" 1, .suspend, .resume, .changeInstances "stage" 3]

theorem fed_made : RunContext.ofProgram fedPlan.program fedPlan.options = .ok fedContext := rfl

theorem fed_answered : fedPlan.Answered fedContext fedRequests := by decide +kernel

theorem fed_agrees :
    Distinct fedContext ∧ Agrees fedContext (fedPlan.asked fedContext fedRequests).1.scene.run
      (fedPlan.asked fedContext fedRequests).1.scene.world :=
  ⟨List.nodup_singleton _, (@agreement_of_made True _ _ _ fed_made (List.nodup_singleton _)).2.2.2
    fedPlan fedRequests rfl (by decide) fed_answered⟩

end FlowRuntime.Rehearsal
