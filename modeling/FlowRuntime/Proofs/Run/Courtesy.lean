import FlowRuntime.Proofs.Run.Rescale

/-!
Whom a run goes on asking. It asks those whom it holds, each of them once; whoever it has
told to stop it has let go before, and does not hold again. We verify this for every
operation, over all answers, of which we only assume that a new instance is a new one.
-/
namespace FlowRuntime

namespace Call

def Within (held : List Handle) : Call → Prop
  | .fanOut _ targets => (targets.map (·.2)).Nodup ∧ ∀ t ∈ targets, t.2 ∈ held
  | _ => True

def IsFresh (held : List Handle) : (call : Call) → call.Answer → Prop
  | .start _, .ok handle => handle ∉ held
  | _, _ => True

def heldAfter (held : List Handle) : (call : Call) → call.Answer → List Handle
  | .start _, .ok handle => handle :: held
  | .fanOut .stop targets, _ => held.filter fun h => h ∉ targets.map (·.2)
  | _, _ => held

end Call

/-- All who are registered are held, each in one place. -/
structure Run.Within (held : List Handle) (run : Run) : Prop where
  held : ∀ key handle, run.registry.get? key = some handle → handle ∈ held
  once : ∀ key key' handle, run.registry.get? key = some handle →
    run.registry.get? key' = some handle → key = key'

namespace Run
variable {held : List Handle} {run : Run}

theorem Within.of_registry {run' : Run} (within : run.Within held)
    (same : run'.registry = run.registry) : run'.Within held := by
  refine ⟨?_, ?_⟩ <;> rw [same]
  · exact within.held
  · exact within.once

theorem Within.let_go {op : InstanceOp} {targets : List (StageKey × Handle)}
    {report : Report StageKey} (within : run.Within held)
    (free : ∀ key handle, run.registry.get? key = some handle → handle ∉ targets.map (·.2)) :
    run.Within (Call.heldAfter held (.fanOut op targets) report) := by
  refine ⟨fun key handle found => ?_, within.once⟩
  cases op with
  | stop =>
    have asked := free key handle found
    simpa [Call.heldAfter] using ⟨within.held key handle found, by simpa using asked⟩
  | suspend | resume | command => exact within.held key handle found

theorem Within.hold {key : StageKey} {handle : Handle} (within : run.Within held)
    (fresh : handle ∉ held) : (run.hold key handle).Within (handle :: held) := by
  have looked (k : StageKey) (h : Handle) (found : (run.hold key handle).registry.get? k = some h) :
      (k = key ∧ h = handle) ∨ run.registry.get? k = some h := by
    rw [Run.hold, SortedMap.get?_insert] at found
    split at found
    · rename_i same
      cases found
      exact .inl ⟨same, rfl⟩
    · exact .inr found
  constructor
  · intro k h found
    rcases looked k h found with ⟨_, rfl⟩ | before
    · exact List.mem_cons_self
    · exact List.mem_cons_of_mem _ (within.held k h before)
  · intro k k' h found found'
    rcases looked k h found with ⟨rfl, rfl⟩ | before
    · rcases looked k' h found' with ⟨rfl, _⟩ | before'
      · rfl
      · exact absurd (within.held k' h before') fresh
    · rcases looked k' h found' with ⟨rfl, rfl⟩ | before'
      · exact absurd (within.held k h before) fresh
      · exact within.once k k' h before before'

end Run

namespace Activity
variable {α β : Type} {after : List Handle → Run → α → Prop} {held : List Handle}

/-- As long as it goes on it asks only those who are held then; at its end, this is so. -/
def Minds (after : List Handle → Run → α → Prop) : List Handle → Activity α → Prop
  | held, .done run x => after held run x
  | held, .waiting _ call resume => call.Within held ∧
      ∀ answer, call.IsFresh held answer → (resume answer).Minds after (call.heldAfter held answer)

theorem Minds.bind {a : Activity α} {next : Run → α → Activity β}
    {after' : List Handle → Run → β → Prop} (first : a.Minds after held)
    (later : ∀ held run x, after held run x → (next run x).Minds after' held) :
    (a.bind next).Minds after' held := by
  induction a generalizing held with
  | done run x => exact later held run x first
  | waiting run call resume ih =>
    constructor
    · exact first.1
    · intro answer fresh
      exact ih answer (first.2 answer fresh)

end Activity

namespace Operation
variable {α β : Type} {held : List Handle} {run : Run}

def Leaves : List Handle → Run → α → Prop := fun held run _ => run.Within held

theorem minds_bind {op : Operation α} {next : α → Operation β}
    {after : List Handle → Run → α → Prop} {after' : List Handle → Run → β → Prop}
    (first : (op run).Minds after held)
    (later : ∀ held run x, after held run x → (next x run).Minds after' held) :
    ((op >>= next) run).Minds after' held := first.bind later

theorem minds_change {f : Run → Run} {next : Unit → Operation β}
    {after : List Handle → Run → β → Prop} (later : (next () (f run)).Minds after held) :
    ((change f >>= next) run).Minds after held := later

theorem minds_read {f : Run → α} {next : α → Operation β} {after : List Handle → Run → β → Prop}
    (later : (next (f run) run).Minds after held) : ((read f >>= next) run).Minds after held := later

/-! ### Those who are listed -/

theorem handles_nodup {l : List (StageKey × Handle)} (within : run.Within held)
    (keys : (l.map (·.1)).Nodup) (registered : ∀ t ∈ l, run.registry.get? t.1 = some t.2) :
    (l.map (·.2)).Nodup := by
  refine List.Nodup.map_on ?_ keys.of_map
  intro t mem t' mem' same
  have here := registered t mem
  have there := registered t' mem'
  rw [← same] at there
  exact Prod.ext (within.once t.1 t'.1 t.2 here there) same

theorem fanOut_within {l : List (StageKey × Handle)} (op : InstanceOp) (within : run.Within held)
    (keys : (l.map (·.1)).Nodup) (registered : ∀ t ∈ l, run.registry.get? t.1 = some t.2) :
    (Call.fanOut op l).Within held :=
  ⟨handles_nodup within keys registered, fun t mem => within.held t.1 t.2 (registered t mem)⟩

theorem all_within (op : InstanceOp) (within : run.Within held) :
    (Call.fanOut op (Registry.all run.registry)).Within held :=
  fanOut_within op within (SortedMap.ascending_nodup run.registry.keys_ascending)
    fun _ mem => SortedMap.mem_entries.mp mem

theorem stage_within (op : InstanceOp) (stage : String) (within : run.Within held) :
    (Call.fanOut op (Registry.stage run.registry stage)).Within held := by
  have keys : ((Registry.stage run.registry stage).map (·.1)).Nodup :=
    (List.filter_sublist.map _).nodup (SortedMap.ascending_nodup run.registry.keys_ascending)
  exact fanOut_within op within keys fun t mem => (Registry.mem_stage.mp mem).2

theorem excess_nodup (stage : String) (live target : Nat) (run : Run) :
    ((excess stage live target run).map (·.1)).Nodup := by
  have some_places : ((excess stage live target run).map (·.1)).Sublist
      ((List.range' target (live - target)).map (StageKey.mk stage)) := by
    unfold excess
    generalize List.range' target (live - target) = ids
    induction ids with
    | nil => exact List.Sublist.slnil
    | cons id rest ih =>
      rw [List.filterMap_cons]
      cases run.registry.get? ⟨stage, id⟩ with
      | none => exact ih.cons _
      | some handle => exact ih.cons_cons _
  refine some_places.nodup (List.Nodup.map ?_ List.nodup_range')
  intro id id' same
  cases same
  rfl

/-! ### Steps -/

theorem minds_fanOut {op : InstanceOp} {targets : List (StageKey × Handle)}
    {after : List Handle → Run → Unit → Prop} (within : (Call.fanOut op targets).Within held)
    (later : ∀ missed report,
      after (Call.heldAfter held (.fanOut op targets) report) (run.countOpFailures missed) ()) :
    (fanOut op targets run).Minds after held :=
  ⟨within, fun report _ => later report.failed.length report⟩

theorem heldAfter_of_ne_stop {op : InstanceOp} (other : op ≠ .stop) (held : List Handle)
    (targets : List (StageKey × Handle)) (report : Report StageKey) :
    Call.heldAfter held (.fanOut op targets) report = held := by
  cases op with
  | stop => exact absurd rfl other
  | suspend | resume | command => rfl

theorem minds_fanOut_other {op : InstanceOp} (other : op ≠ .stop)
    {targets : List (StageKey × Handle)} (within : (Call.fanOut op targets).Within held) :
    (fanOut op targets run).Minds
      (fun held' run' _ => held' = held ∧ run'.registry = run.registry) held := by
  apply minds_fanOut within
  intro missed report
  exact ⟨heldAfter_of_ne_stop other held targets report, rfl⟩

theorem minds_stopAll (within : run.Within held) : (stopAll run).Minds Leaves held := by
  have nobody : ∀ key handle, run.releaseAll.registry.get? key ≠ some handle := by
    intro key handle
    simp [Run.releaseAll]
  have freed : run.releaseAll.Within held :=
    ⟨fun key handle found => absurd found (nobody key handle),
      fun key key' handle found => absurd found (nobody key handle)⟩
  change (fanOut .stop run.registry.all run.releaseAll).Minds Leaves held
  apply minds_fanOut (all_within .stop within)
  intro missed report
  have gone : (run.releaseAll.countOpFailures missed).Within held := freed.of_registry rfl
  exact gone.let_go fun key handle found => absurd found (nobody key handle)

theorem minds_startInstances (stage : StageSpec) (total left first : Nat)
    (within : run.Within held) :
    (startInstances stage total left first run).Minds Leaves held := by
  induction left generalizing first held run with
  | zero => exact within
  | succ left ih =>
    refine ⟨trivial, ?_⟩
    intro answer fresh
    cases answer with
    | error e => exact within
    | ok handle => exact ih _ (within.hold fresh)

theorem minds_repartition (stage : String) (partitions : Nat) :
    (repartition stage partitions run).Minds (fun held' run' _ => held' = held ∧ run' = run) held :=
  ⟨trivial, fun _ _ => ⟨rfl, rfl⟩⟩

theorem minds_repartitionAround (stage : String) (partitions : Nat)
    {targets : List (StageKey × Handle)}
    (listed : (Call.fanOut .suspend targets).Within held) (within : run.Within held) :
    (repartitionAround stage targets partitions run).Minds Leaves held := by
  refine minds_bind (minds_fanOut_other (by simp) listed) ?_
  rintro _ run₁ _ ⟨rfl, same⟩
  have within₁ := within.of_registry same
  refine minds_bind (minds_repartition stage partitions) ?_
  rintro _ _ answer ⟨rfl, rfl⟩
  cases answer with
  | error e => exact within₁
  | ok _ =>
    refine minds_bind (minds_fanOut_other (by simp) listed) ?_
    rintro _ run₂ _ ⟨rfl, same₂⟩
    refine minds_bind (minds_fanOut_other (by simp) listed) ?_
    rintro _ run₃ _ ⟨rfl, same₃⟩
    exact (within₁.of_registry same₂).of_registry same₃

theorem minds_increase (stage : StageSpec) (live target : Nat) (within : run.Within held) :
    (increase stage live target run).Minds Leaves held := by
  apply minds_read
  refine minds_bind (minds_repartitionAround stage.name target (stage_within _ _ within) within) ?_
  intro held' run' around within'
  cases around with
  | error e => exact within'
  | ok _ => exact minds_startInstances stage target _ _ within'

theorem minds_decrease (stage : StageSpec) (live target : Nat) (within : run.Within held) :
    (decrease stage live target run).Minds Leaves held := by
  generalize gone : excess stage.name live target run = excessive
  generalize freed : run.release (excessive.map (·.1)) = run₁
  have registered : ∀ t ∈ excessive, run.registry.get? t.1 = some t.2 := by
    intro t mem
    rw [← gone] at mem
    exact (mem_excess.mp mem).2.2
  have kept (key : StageKey) (handle : Handle) (found : run₁.registry.get? key = some handle) :
      key ∉ excessive.map (·.1) ∧ run.registry.get? key = some handle := by
    rw [← freed, Run.release, SortedMap.get?_eraseAll] at found
    split at found
    · cases found
    · rename_i stays
      exact ⟨stays, found⟩
  have within₁ : run₁.Within held :=
    ⟨fun key handle found => within.held key handle (kept key handle found).2,
      fun key key' handle found found' =>
        within.once key key' handle (kept key handle found).2 (kept key' handle found').2⟩
  have listed : (Call.fanOut .stop excessive).Within held :=
    fanOut_within .stop within (gone ▸ excess_nodup _ _ _ _) registered
  have begun : decrease stage live target run = (fanOut .stop excessive >>= fun _ =>
      read (Registry.stage ·.registry stage.name) >>= fun targets =>
        repartitionAround stage.name targets target) run₁ := by
    rw [← freed, ← gone]
    rfl
  rw [begun]
  have stopped : (fanOut .stop excessive run₁).Minds Leaves held := by
    apply minds_fanOut listed
    intro missed report
    have counted : (run₁.countOpFailures missed).Within held := within₁.of_registry rfl
    refine counted.let_go ?_
    intro key handle found asked
    obtain ⟨t, mem, rfl⟩ := List.mem_map.mp asked
    obtain ⟨stays, before⟩ := kept key t.2 found
    rw [within.once key t.1 t.2 before (registered t mem)] at stays
    exact stays (List.mem_map_of_mem mem)
  refine minds_bind stopped ?_
  intro held₂ run₂ _ within₂
  exact minds_repartitionAround stage.name target (stage_within _ _ within₂) within₂

theorem minds_windDown (within : run.Within held) : (windDown run).Minds Leaves held := by
  have told : (run.transition .stopping none).Within held := within.of_registry rfl
  apply minds_change
  refine minds_bind (minds_stopAll told) ?_
  intro held' run' _ within'
  exact within'.of_registry rfl

theorem minds_conclude (stage : StageSpec) (target : Nat) (outcome : Outcome)
    (within : run.Within held) : (conclude stage target outcome run).Minds Leaves held := by
  apply minds_change
  cases outcome with
  | ok _ => exact within.of_registry rfl
  | error cause =>
    have failed : run.publish.countRescaleFailure.Within held := within.of_registry rfl
    refine minds_change (minds_bind (minds_windDown failed) ?_)
    intro held' run' _ within'
    exact within'.of_registry rfl

theorem minds_rescale (stage : StageSpec) (live target : Nat) (within : run.Within held) :
    (rescale stage live target run).Minds Leaves held := by
  have counted : run.countRescale.Within held := within.of_registry rfl
  rw [rescale_eq]
  apply minds_change
  refine minds_bind ?_ fun held' run' outcome within' => minds_conclude stage target outcome within'
  split
  · exact minds_increase stage live target counted
  · exact minds_decrease stage live target counted

/-! ### Operations -/

theorem minds_requiring {verb : RunVerb} {allowed : List RunState} {op : Operation Outcome}
    (within : run.Within held) (minds : (op run).Minds Leaves held) :
    (requiring verb allowed op run).Minds Leaves held := by
  unfold requiring
  split
  · exact minds
  · exact within

theorem minds_suspend (within : run.Within held) : (suspend run).Minds Leaves held := by
  apply minds_requiring within
  have told : (run.transition .suspending none).Within held := within.of_registry rfl
  refine minds_change (minds_read (minds_bind (minds_fanOut_other (by simp) (all_within .suspend told)) ?_))
  rintro _ run' _ ⟨rfl, same⟩
  exact (told.of_registry same).of_registry rfl

theorem minds_resume (within : run.Within held) : (resume run).Minds Leaves held := by
  apply minds_requiring within
  have told : (run.transition .resuming none).Within held := within.of_registry rfl
  refine minds_change (minds_read (minds_bind (minds_fanOut_other (by simp) (all_within .resume told)) ?_))
  rintro _ run' _ ⟨rfl, same⟩
  exact (told.of_registry same).of_registry rfl

theorem minds_stop (within : run.Within held) : (stop run).Minds Leaves held := by
  unfold stop
  split
  · exact within
  · apply minds_requiring within
    refine minds_bind (minds_windDown within) ?_
    intro held' run' _ within'
    exact within'.of_registry rfl

theorem minds_changeInstances (stage : String) (target : Nat) (within : run.Within held) :
    (changeInstances stage target run).Minds Leaves held := by
  unfold changeInstances
  apply minds_requiring within
  dsimp only
  split
  · exact within
  · split
    · exact within
    · split
      · exact within
      · exact minds_rescale _ _ _ within

theorem minds_startStages (stages : List StageSpec) (within : run.Within held) :
    (startStages stages run).Minds Leaves held := by
  induction stages generalizing held run with
  | nil => exact within
  | cons stage rest ih =>
    refine minds_bind (minds_startInstances stage _ _ 0 within) ?_
    intro held' run' outcome within'
    cases outcome with
    | error e => exact within'
    | ok _ => exact ih within'

theorem minds_bindQueues :
    (bindQueues run).Minds (fun held' run' _ => held' = held ∧ run' = run) held :=
  ⟨trivial, fun _ _ => ⟨rfl, rfl⟩⟩

theorem minds_start (within : run.Within held) : (start run).Minds Leaves held := by
  refine minds_bind minds_bindQueues ?_
  rintro _ _ bound ⟨rfl, rfl⟩
  cases bound with
  | error e => exact within
  | ok _ =>
    refine minds_read (minds_bind (minds_startStages _ within) ?_)
    intro held' run' outcome within'
    cases outcome with
    | ok _ => exact within'.of_registry rfl
    | error e =>
      refine minds_bind (minds_stopAll within') ?_
      intro held'' run'' _ within''
      exact within''

end Operation

theorem RunRequest.minds {held : List Handle} {run : Run} (request : RunRequest)
    (within : run.Within held) : (request.operation run).Minds Operation.Leaves held := by
  cases request with
  | suspend => exact Operation.minds_bind (Operation.minds_suspend within) fun _ _ _ => id
  | resume => exact Operation.minds_bind (Operation.minds_resume within) fun _ _ _ => id
  | stop => exact Operation.minds_bind (Operation.minds_stop within) fun _ _ _ => id
  | changeInstances stage target =>
    exact Operation.minds_bind (Operation.minds_changeInstances stage target within) fun _ _ _ => id
  | instanceIds stage => exact within

end FlowRuntime
