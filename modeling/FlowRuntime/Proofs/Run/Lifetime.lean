import FlowRuntime.Proofs.Run.Reached

/-!
The lives of the instances of one place. A lifetime begins with a start that was granted;
then the instance is paused and resumed any number of times, where a pause may tell it
a count; it may be suspended once more, and then it may be told to stop, once. We verify
that all that is ever asked of a place is made of such lifetimes, one after the other and
all but the last of them ended; that the registry holds the place exactly while its last
lifetime goes on; and that nothing is started in a place that is held.
-/
namespace FlowRuntime
open Operation

inductive InstanceEvent where
  | started (handle : Handle)
  | asked (op : InstanceOp) (handle : Handle)
  deriving DecidableEq

/-- What an exchange means to the instances of a place: only what was started can be asked. -/
def Exchange.eventsAt (key : StageKey) : Exchange → List InstanceEvent
  | ⟨.start options, .ok handle⟩ => if options.key = key then [.started handle] else []
  | ⟨.fanOut op targets, _⟩ => (targets.filter (·.1 = key)).map fun t => .asked op t.2
  | _ => []

def eventsAt (key : StageKey) (log : List Exchange) : List InstanceEvent :=
  log.flatMap (·.eventsAt key)

theorem eventsAt_append (key : StageKey) (log log' : List Exchange) :
    eventsAt key (log ++ log') = eventsAt key log ++ eventsAt key log' := List.flatMap_append

theorem eventsAt_cons (key : StageKey) (e : Exchange) (log : List Exchange) :
    eventsAt key (e :: log) = e.eventsAt key ++ eventsAt key log := rfl

@[simp] theorem eventsAt_nil (key : StageKey) : eventsAt key [] = [] := rfl

theorem eventsAt_repartition (key : StageKey) (group : ConsumerGroup) (answer : Except Failure Unit) :
    Exchange.eventsAt key ⟨.repartition group, answer⟩ = [] := rfl

/-- For each pause that was ended, the count that was told in it, if any. -/
structure Lifetime where
  handle : Handle
  pauses : List (Option Nat)
  isSuspended : Bool
  isStopped : Bool

namespace Lifetime

def pause (handle : Handle) (told : Option Nat) : List InstanceEvent :=
  .asked .suspend handle ::
    ((told.map fun count => .asked (.command count) handle).toList ++ [.asked .resume handle])

def events (l : Lifetime) : List InstanceEvent :=
  .started l.handle :: (l.pauses.flatMap (pause l.handle) ++
    ((if l.isSuspended then [.asked .suspend l.handle] else []) ++
      if l.isStopped then [.asked .stop l.handle] else []))

end Lifetime

/-- Events are those of lifetimes of which all but the last have ended; the last is of the one that is
held, or has ended too. -/
def Lived (events : List InstanceEvent) (held : Option Handle) : Prop :=
  ∃ lives : List Lifetime, events = lives.flatMap Lifetime.events ∧
    (∀ l ∈ lives.dropLast, l.isStopped = true) ∧
    held = lives.getLast?.bind fun l => if l.isStopped then none else some l.handle

inductive Life where
  | gone
  | awake (handle : Handle)
  | asleep (handle : Handle)

namespace Life

def handle? : Life → Option Handle
  | gone => none
  | awake handle | asleep handle => some handle

def ofHeld : Option Handle → Life
  | none => gone
  | some handle => awake handle

@[simp] theorem handle?_ofHeld (held : Option Handle) : (ofHeld held).handle? = held := by
  cases held <;> rfl

end Life

/-- Lifetimes that have ended, and one that has come so far. -/
def Chronicle (events : List InstanceEvent) (life : Life) : Prop :=
  ∃ past : List Lifetime, (∀ l ∈ past, l.isStopped = true) ∧
    match life with
    | .gone => events = past.flatMap Lifetime.events
    | .awake handle => ∃ pauses,
      events = past.flatMap Lifetime.events ++ Lifetime.events ⟨handle, pauses, false, false⟩
    | .asleep handle => ∃ pauses,
      events = past.flatMap Lifetime.events ++ Lifetime.events ⟨handle, pauses, true, false⟩

namespace Chronicle
variable {events : List InstanceEvent} {life : Life} {handle : Handle}

theorem nil : Chronicle [] .gone := ⟨[], by simp, rfl⟩

theorem start (before : Chronicle events .gone) (handle : Handle) :
    Chronicle (events ++ [.started handle]) (.awake handle) := by
  obtain ⟨past, finished, rfl⟩ := before
  exact ⟨past, finished, [], rfl⟩

theorem suspend (before : Chronicle events (.awake handle)) :
    Chronicle (events ++ [.asked .suspend handle]) (.asleep handle) := by
  obtain ⟨past, finished, pauses, rfl⟩ := before
  exact ⟨past, finished, pauses, by simp [Lifetime.events]⟩

theorem pause (before : Chronicle events (.awake handle)) (told : Option Nat) :
    Chronicle (events ++ Lifetime.pause handle told) (.awake handle) := by
  obtain ⟨past, finished, pauses, rfl⟩ := before
  exact ⟨past, finished, pauses ++ [told], by simp [Lifetime.events]⟩

theorem resume (before : Chronicle events (.asleep handle)) :
    Chronicle (events ++ [.asked .resume handle]) (.awake handle) := by
  obtain ⟨past, finished, pauses, rfl⟩ := before
  exact ⟨past, finished, pauses ++ [none], by simp [Lifetime.events, Lifetime.pause]⟩

theorem stop (before : Chronicle events life) (held : life.handle? = some handle) :
    Chronicle (events ++ [.asked .stop handle]) .gone := by
  obtain ⟨past, finished, shape⟩ := before
  cases life with
  | gone => cases held
  | awake handle' =>
    cases held
    obtain ⟨pauses, rfl⟩ := shape
    refine ⟨past ++ [⟨handle, pauses, false, true⟩], ?_, by simp [Lifetime.events]⟩
    exact List.forall_mem_append.mpr ⟨finished, by simp⟩
  | asleep handle' =>
    cases held
    obtain ⟨pauses, rfl⟩ := shape
    refine ⟨past ++ [⟨handle, pauses, true, true⟩], ?_, by simp [Lifetime.events]⟩
    exact List.forall_mem_append.mpr ⟨finished, by simp⟩

theorem lived (chronicle : Chronicle events life) : Lived events life.handle? := by
  obtain ⟨past, finished, shape⟩ := chronicle
  cases life with
  | gone =>
    refine ⟨past, shape, fun l mem => finished l (past.dropLast_sublist.subset mem), ?_⟩
    cases last : past.getLast? with
    | none => rfl
    | some l => simp [Life.handle?, finished l (List.mem_of_getLast? last)]
  | awake handle =>
    obtain ⟨pauses, rfl⟩ := shape
    exact ⟨past ++ [⟨handle, pauses, false, false⟩], by simp, by simpa using finished, by
      simp [Life.handle?]⟩
  | asleep handle =>
    obtain ⟨pauses, rfl⟩ := shape
    exact ⟨past ++ [⟨handle, pauses, true, false⟩], by simp, by simpa using finished, by
      simp [Life.handle?]⟩

end Chronicle

/-! ### What is asked of a place -/

section
variable {key : StageKey} {targets : List (StageKey × Handle)}

theorem eventsAt_fanOut_of_not_mem (absent : key ∉ targets.map (·.1)) (op : InstanceOp)
    (report : Report StageKey) : Exchange.eventsAt key ⟨.fanOut op targets, report⟩ = [] := by
  have none : targets.filter (·.1 = key) = [] := by
    rw [List.filter_eq_nil_iff]
    intro t mem
    rw [decide_eq_true_eq]
    intro same
    exact absent (same ▸ List.mem_map_of_mem mem)
  simp [Exchange.eventsAt, none]

theorem eventsAt_fanOut_of_mem (nodup : (targets.map (·.1)).Nodup) {handle : Handle}
    (mem : (key, handle) ∈ targets) (op : InstanceOp) (report : Report StageKey) :
    Exchange.eventsAt key ⟨.fanOut op targets, report⟩ = [.asked op handle] := by
  have one : targets.filter (·.1 = key) = [(key, handle)] := by
    induction targets with
    | nil => cases mem
    | cons head rest ih =>
      rw [List.map_cons, List.nodup_cons] at nodup
      rcases List.mem_cons.mp mem with rfl | later
      · have others : rest.filter (·.1 = key) = [] := by
          rw [List.filter_eq_nil_iff]
          intro t listed
          rw [decide_eq_true_eq]
          intro same
          exact nodup.1 (List.mem_map.mpr ⟨t, listed, same⟩)
        simp [others]
      · have apart : head.1 ≠ key := by
          intro same
          exact nodup.1 (same ▸ List.mem_map_of_mem later)
        simp [apart, ih nodup.2 later]
  simp [Exchange.eventsAt, one]

def Lists (targets : List (StageKey × Handle)) (key : StageKey) (held : Option Handle) : Prop :=
  (targets.map (·.1)).Nodup ∧ ∀ handle, (key, handle) ∈ targets ↔ held = some handle

theorem Lists.eventsAt {held : Option Handle} (lists : Lists targets key held) (op : InstanceOp)
    (report : Report StageKey) :
    Exchange.eventsAt key ⟨.fanOut op targets, report⟩ = held.toList.map (.asked op) := by
  cases held with
  | none =>
    have absent : key ∉ targets.map (·.1) := by
      intro listed
      obtain ⟨t, mem, rfl⟩ := List.mem_map.mp listed
      cases (lists.2 t.2).mp mem
    exact eventsAt_fanOut_of_not_mem absent op report
  | some handle => exact eventsAt_fanOut_of_mem lists.1 ((lists.2 handle).mpr rfl) op report

theorem lists_all (r : Registry Handle) (key : StageKey) :
    Lists (Registry.all r) key (r.get? key) :=
  ⟨SortedMap.ascending_nodup r.keys_ascending, fun _ => SortedMap.mem_entries⟩

theorem lists_stage (r : Registry Handle) (name : String) (key : StageKey) :
    Lists (Registry.stage r name) key (if key.stage = name then r.get? key else none) := by
  constructor
  · exact (List.filter_sublist.map _).nodup (SortedMap.ascending_nodup r.keys_ascending)
  · intro handle
    rw [Registry.mem_stage]
    by_cases here : key.stage = name <;> simp [here]

theorem lists_excess {run : Run} {count : String → Nat}
    (numbered : Registry.Numbered run.registry count) (name : String) (target : Nat) (key : StageKey) :
    Lists (excess name (count name) target run) key
      (if key.stage = name ∧ target ≤ key.instanceId then run.registry.get? key else none) := by
  constructor
  · rw [excess_keys numbered]
    exact Registry.places_nodup name target (count name - target)
  · intro handle
    rw [mem_excess]
    by_cases here : key.stage = name ∧ target ≤ key.instanceId
    · rw [if_pos here]
      constructor
      · intro listed
        exact listed.2.2
      · intro found
        have within := numbered.lt_of_held found
        rw [here.1] at within
        exact ⟨here.1, ⟨here.2, within⟩, found⟩
    · rw [if_neg here]
      simp only [reduceCtorEq, iff_false]
      intro listed
      exact here ⟨listed.1, listed.2.1.1⟩

end

section
variable {c : RunContext} {run : Run} {log : List Exchange} {x : Outcome} {key : StageKey}
  {events : List InstanceEvent} {life : Life}

theorem Chronicle.stopAll {r : Registry Handle} (before : Chronicle events life)
    (held : life.handle? = r.get? key) (report : Report StageKey) :
    Chronicle (events ++ eventsAt key [⟨.fanOut .stop (Registry.all r), report⟩]) .gone := by
  rw [eventsAt_cons, (lists_all r key).eventsAt]
  cases found : r.get? key with
  | none =>
    rw [found] at held
    cases life with
    | gone => simpa using before
    | awake handle => cases held
    | asleep handle => cases held
  | some handle => simpa using before.stop (held.trans found)

theorem Regrouped.chronicle {r : Registry Handle} {stage : String} {partitions : Nat}
    (around : Regrouped c stage (Registry.stage r stage) partitions log x)
    (before : Chronicle events (.ofHeld (r.get? key))) :
    ∃ life, Chronicle (events ++ eventsAt key log) life ∧ life.handle? = r.get? key ∧
      (x = .ok () → life = .ofHeld (r.get? key)) := by
  have asked := (lists_stage r stage key).eventsAt
  cases found : (if key.stage = stage then r.get? key else none) with
  | none =>
    rw [found] at asked
    -- In other stages nobody is asked anything.
    have quiet : eventsAt key log = [] := by
      cases around <;> simp [eventsAt_cons, eventsAt_repartition, asked]
    exact ⟨_, by simpa [quiet] using before, Life.handle?_ofHeld _, fun _ => rfl⟩
  | some handle =>
    rw [found] at asked
    have here : r.get? key = some handle := by
      split at found
      · exact found
      · cases found
    rw [here] at before ⊢
    cases around with
    | refused paused e =>
      refine ⟨.asleep handle, ?_, rfl, nofun⟩
      simpa [eventsAt_cons, eventsAt_repartition, asked] using before.suspend
    | done paused told resumed =>
      refine ⟨.awake handle, ?_, rfl, fun _ => rfl⟩
      have paused := before.pause (some partitions)
      simpa [eventsAt_cons, eventsAt_repartition, asked, Lifetime.pause] using paused

theorem Started.chronicle {openings : List Opening} {begun : List (StageKey × Handle)}
    {r : Registry Handle} (started : Started c openings log begun x)
    (nodup : (openings.map Opening.key).Nodup) (vacant : ∀ o ∈ openings, r.get? o.key = none)
    (before : Chronicle events (.ofHeld (r.get? key))) :
    Chronicle (events ++ eventsAt key log) (.ofHeld ((r.insertAll begun).get? key)) := by
  induction started generalizing r events with
  | all => simpa [SortedMap.insertAll] using before
  | failed o rest e => simpa [eventsAt_cons, Exchange.eventsAt, SortedMap.insertAll] using before
  | @next o handle rest log begun x later ih =>
    rw [List.map_cons, List.nodup_cons] at nodup
    have still : ∀ o' ∈ rest, (r.insert o.key handle).get? o'.key = none := by
      intro o' mem
      have apart : o'.key ≠ o.key := by
        intro same
        exact nodup.1 (same ▸ List.mem_map_of_mem mem)
      rw [r.get?_insert_ne apart]
      exact vacant o' (List.mem_cons_of_mem _ mem)
    have onward : Chronicle (events ++ Exchange.eventsAt key ⟨.start (o.options c), .ok handle⟩)
        (.ofHeld ((r.insert o.key handle).get? key)) := by
      by_cases here : o.key = key
      · subst here
        rw [vacant o List.mem_cons_self] at before
        simpa [Exchange.eventsAt, Life.ofHeld] using before.start handle
      · rw [r.get?_insert_ne (Ne.symm here)]
        simpa [Exchange.eventsAt, here] using before
    rw [eventsAt_cons, ← List.append_assoc]
    exact ih nodup.2 still onward

theorem Reshaped.chronicle {count : String → Nat} {spec : StageSpec} {target : Nat}
    {registry : Registry Handle} (numbered : Registry.Numbered run.registry count)
    (work : Reshaped run spec (count spec.name) target log registry x)
    (before : Chronicle events (.ofHeld (run.registry.get? key))) :
    ∃ life, Chronicle (events ++ eventsAt key log) life ∧ life.handle? = registry.get? key ∧
      (x = .ok () → life = .ofHeld (registry.get? key)) := by
  cases work with
  | kept more around => exact around.chronicle before
  | @grown more log log' begun x around started =>
    obtain ⟨life, between, _, awake⟩ := around.chronicle before
    rw [awake rfl] at between
    have vacant := Opening.ofStage_vacant numbered spec target (target - count spec.name)
    have after := started.chronicle (Opening.ofStage_keys_nodup _ _ _ _) vacant between
    rw [List.append_assoc, ← eventsAt_append] at after
    exact ⟨_, after, Life.handle?_ofHeld _, fun _ => rfl⟩
  | @shrunk fewer log x stopped around =>
    -- Whoever has no place is told to stop before the others are paused.
    have asked := (lists_excess numbered spec.name target key).eventsAt .stop stopped
    have left := get?_remaining numbered spec.name target key
    have between : Chronicle (events ++ Exchange.eventsAt key
        ⟨.fanOut .stop (excess spec.name (count spec.name) target run), stopped⟩)
        (.ofHeld ((run.remaining spec.name (count spec.name) target).get? key)) := by
      rw [asked, left]
      by_cases excessive : key.stage = spec.name ∧ target ≤ key.instanceId
      · rw [if_pos excessive, if_pos excessive]
        cases found : run.registry.get? key with
        | none => simpa [found] using before
        | some handle =>
          rw [found] at before
          exact before.stop rfl
      · rw [if_neg excessive, if_neg excessive]
        simpa using before
    obtain ⟨life, after, held, awake⟩ := around.chronicle between
    rw [List.append_assoc, ← eventsAt_cons] at after
    exact ⟨life, after, held, awake⟩

/-- Where the lifetime of a place has come to between two requests. -/
def Run.lifeAt (run : Run) (key : StageKey) : Life :=
  match run.registry.get? key with
  | none => .gone
  | some handle => if run.state = .suspended then .asleep handle else .awake handle

theorem handle?_lifeAt (run : Run) (key : StageKey) :
    (run.lifeAt key).handle? = run.registry.get? key := by
  unfold Run.lifeAt
  split
  · rename_i vacant
    exact vacant.symm
  · rename_i handle found
    split <;> exact found.symm

theorem lifeAt_awake (awake : run.state ≠ .suspended) :
    run.lifeAt key = .ofHeld (run.registry.get? key) := by
  unfold Run.lifeAt
  split
  · rename_i vacant
    rw [vacant]
    rfl
  · rename_i handle found
    rw [found, if_neg awake]
    rfl

theorem Carried.chronicle {run' : Run} (sound : Sound c run) (carried : Carried run log run')
    (before : Chronicle events (run.lifeAt key)) :
    Chronicle (events ++ eventsAt key log) (run'.lifeAt key) := by
  have asked := (lists_all run.registry key).eventsAt
  cases carried with
  | idle => simpa using before
  | suspended alive report =>
    rw [lifeAt_awake (by simp [alive])] at before
    rw [eventsAt_cons, asked]
    simp only [Run.lifeAt, Run.transition, Run.countOpFailures]
    cases found : run.registry.get? key with
    | none => simpa [found, Life.ofHeld] using before
    | some handle =>
      rw [found] at before
      simpa using before.suspend
  | resumed suspended report =>
    rw [eventsAt_cons, asked]
    simp only [Run.lifeAt, Run.transition, Run.countOpFailures, suspended] at before ⊢
    cases found : run.registry.get? key with
    | none => simpa [found] using before
    | some handle =>
      simp only [found, if_true] at before
      simpa using before.resume
  | stopped going report => exact before.stopAll (handle?_lifeAt run key) report
  | @rescaled stage target spec due _ _ x course =>
    have staffed := (sound.staffed (.inl due.alive)).keys
    have named := FlowSpec.name_of_stage? due.found
    rw [lifeAt_awake (by simp [due.alive])] at before
    cases course with
    | @complete _ registry work =>
      rw [← named] at work
      obtain ⟨life, after, _, awake⟩ := work.chronicle staffed before
      have state : (run.reshaped registry (missed log)).state = run.state := rfl
      rw [lifeAt_awake (by simp [state, due.alive])]
      exact awake rfl ▸ after
    | failed work report =>
      rw [← named] at work
      obtain ⟨life, after, held, _⟩ := work.chronicle staffed before
      rw [eventsAt_append, ← List.append_assoc]
      exact after.stopAll held report

theorem ofStages_keys_nodup {stages : List StageSpec} (nodup : (stages.map (·.name)).Nodup) :
    ((Opening.ofStages stages).map Opening.key).Nodup := by
  induction stages with
  | nil => exact List.nodup_nil
  | cons s rest ih =>
    rw [List.map_cons, List.nodup_cons] at nodup
    rw [Opening.ofStages_cons, List.map_append, List.nodup_append]
    refine ⟨Opening.ofStage_keys_nodup _ _ _ _, ih nodup.2, ?_⟩
    rintro key first _ later rfl
    rw [Opening.ofStage_keys, List.mem_map] at first
    obtain ⟨id, _, rfl⟩ := first
    obtain ⟨other, mem, same, _⟩ := Opening.mem_ofStages_keys.mp later
    exact nodup.1 (List.mem_map.mpr ⟨other, mem, same⟩)

theorem start_chronicle (accepted : c.flow.Accepted)
    (returned : Returns start (.starting c) log run x) :
    Chronicle (eventsAt key log) (run.lifeAt key) := by
  have filled {log : List Exchange} {begun : List (StageKey × Handle)} {x : Outcome}
      (started : Started c (Opening.ofStages c.flow.stages) log begun x) :
      Chronicle (eventsAt key log) (.ofHeld ((SortedMap.empty.insertAll begun).get? key)) := by
    have nothing : Chronicle [] (.ofHeld ((SortedMap.empty : Registry Handle).get? key)) := .nil
    exact started.chronicle (ofStages_keys_nodup accepted.names_nodup) (fun _ _ => rfl) nothing
  cases returns_start returned with
  | unbound e => exact .nil
  | withdrawn started report =>
    have after := (filled started).stopAll (Life.handle?_ofHeld _) report
    rw [← eventsAt_append] at after
    exact after
  | complete started =>
    rw [lifeAt_awake (by simp [Run.transition])]
    have after := filled started
    exact after

theorem Reached.chronicle (accepted : c.flow.Accepted) (reached : Reached c log run)
    (key : StageKey) : Chronicle (eventsAt key log) (run.lifeAt key) := by
  induction reached with
  | started returned => exact start_chronicle accepted returned
  | answered before returned ih =>
    rw [eventsAt_append]
    exact (returns_request returned).chronicle (sound_of_accepted accepted before) ih

/-! ### Places that are being filled -/

theorem not_awaits_turnAll {run' : Run} {through target : RunState} {op : InstanceOp}
    {options : InstanceOptions} :
    ¬ Awaits (turnAll through target op) run log run' (.start options) := by
  intro awaits
  rw [turnAll, awaits_transition_bind, awaits_read_bind] at awaits
  rcases awaits_fanOut_bind.mp awaits with ⟨_, _, other⟩ | ⟨_, _, _, finished⟩
  · cases other
  · exact not_awaits_pure finished

theorem not_awaits_stop {run' : Run} {options : InstanceOptions} :
    ¬ Awaits stop run log run' (.start options) := by
  intro awaits
  unfold stop at awaits
  by_cases finished : run.state = .stopped
  · simp only [Awaits, finished, if_true] at awaits
    exact not_awaits_pure awaits
  · simp only [Awaits, finished, if_false] at awaits
    obtain ⟨_, resume, leads⟩ := awaits_requiring.mp awaits
    cases leads with
    | next report rest => exact nomatch rest

theorem awaits_outcome {op : Operation Outcome} {run' : Run} {call : Call}
    (awaits : Awaits (RunAnswer.outcome <$> op) run log run' call) : Awaits op run log run' call := by
  rcases awaits_bind.mp awaits with before | ⟨_, _, _, _, _, finished, _⟩
  · exact before
  · exact absurd finished not_awaits_pure

theorem vacant_of_awaits_request (sound : Sound c run) {request : RunRequest} {run' : Run}
    {options : InstanceOptions} (awaits : Awaits request.operation run log run' (.start options)) :
    run'.registry.get? options.key = none := by
  cases request with
  | suspend =>
    have went := awaits_requiring.mp (suspend_eq ▸ awaits_outcome awaits)
    exact absurd went.2 not_awaits_turnAll
  | resume =>
    have went := awaits_requiring.mp (resume_eq ▸ awaits_outcome awaits)
    exact absurd went.2 not_awaits_turnAll
  | stop => exact absurd (awaits_outcome awaits) not_awaits_stop
  | changeInstances stage target =>
    have went := awaits_outcome awaits
    by_cases busy : ∃ spec, Due run stage target spec
    · obtain ⟨spec, due⟩ := busy
      have staffed := (sound.staffed (.inl due.alive)).keys
      have named := FlowSpec.name_of_stage? due.found
      rw [Awaits, changeInstances_due due] at went
      obtain ⟨more, log', counted, filling⟩ := awaits_rescale went
      rw [← named] at filling
      apply filling.get?_eq_none (Opening.ofStage_keys_nodup _ _ _ _)
      exact Opening.ofStage_vacant staffed spec target _
    · obtain ⟨y, idle⟩ := changeInstances_idle (not_exists.mp busy)
      rw [Awaits, idle] at went
      exact absurd went not_awaits_pure
  | instanceIds stage =>
    rw [RunRequest.operation, awaits_read_bind] at awaits
    exact absurd awaits not_awaits_pure

theorem vacant_of_awaits_start (accepted : c.flow.Accepted) {options : InstanceOptions}
    (awaits : Awaits start (.starting c) log run (.start options)) :
    run.registry.get? options.key = none := by
  obtain ⟨log', filling⟩ := awaits_start awaits
  exact filling.get?_eq_none (ofStages_keys_nodup accepted.names_nodup) fun _ _ => rfl

/-! ### Whole histories -/

def starts (events : List InstanceEvent) : Nat :=
  events.countP fun e => e matches .started _

def stops (events : List InstanceEvent) : Nat :=
  events.countP fun e => e matches .asked .stop _

theorem starts_append (es es' : List InstanceEvent) : starts (es ++ es') = starts es + starts es' :=
  List.countP_append

theorem stops_append (es es' : List InstanceEvent) : stops (es ++ es') = stops es + stops es' :=
  List.countP_append

theorem Lifetime.counts (l : Lifetime) :
    starts l.events = 1 ∧ stops l.events = if l.isStopped then 1 else 0 := by
  have paused : ∀ e ∈ l.pauses.flatMap (Lifetime.pause l.handle),
      (e matches .started _) = false ∧ (e matches .asked .stop _) = false := by
    intro e mem
    obtain ⟨told, _, mem⟩ := List.mem_flatMap.mp mem
    cases told with
    | none =>
      simp only [Lifetime.pause, Option.map_none, Option.toList_none, List.nil_append,
        List.mem_cons, List.not_mem_nil, or_false] at mem
      rcases mem with rfl | rfl <;> exact ⟨rfl, rfl⟩
    | some count =>
      simp only [Lifetime.pause, Option.map_some, Option.toList_some, List.cons_append,
        List.nil_append, List.mem_cons, List.not_mem_nil, or_false] at mem
      rcases mem with rfl | rfl | rfl <;> exact ⟨rfl, rfl⟩
  have unstarted : starts (l.pauses.flatMap (Lifetime.pause l.handle)) = 0 := by
    rw [starts, List.countP_eq_zero]
    intro e mem
    simp [(paused e mem).1]
  have unstopped : stops (l.pauses.flatMap (Lifetime.pause l.handle)) = 0 := by
    rw [stops, List.countP_eq_zero]
    intro e mem
    simp [(paused e mem).2]
  rw [Lifetime.events, ← List.singleton_append, starts_append, starts_append, starts_append,
    stops_append, stops_append, stops_append, unstarted, unstopped]
  cases l.isSuspended <;> cases l.isStopped <;> exact ⟨rfl, rfl⟩

theorem Lived.balanced {held : Option Handle} (lived : Lived events held) :
    starts events = stops events + if held.isSome then 1 else 0 := by
  have ended {past : List Lifetime} (finished : ∀ l ∈ past, l.isStopped = true) :
      starts (past.flatMap Lifetime.events) = stops (past.flatMap Lifetime.events) := by
    induction past with
    | nil => rfl
    | cons l rest ih =>
      obtain ⟨first, others⟩ := List.forall_mem_cons.mp finished
      rw [List.flatMap_cons, starts_append, stops_append, ih others, l.counts.1, l.counts.2, first]
      rfl
  -- Lifetimes that have ended are balanced, so what is left is the last one.
  obtain ⟨lives, rfl, finished, rfl⟩ := lived
  rcases List.eq_nil_or_concat lives with rfl | ⟨past, l, rfl⟩
  · rfl
  · rw [List.concat_eq_append] at finished ⊢
    rw [List.dropLast_concat] at finished
    rw [List.flatMap_append, starts_append, stops_append, ended finished]
    simp only [List.flatMap_cons, List.flatMap_nil, List.append_nil, l.counts.1, l.counts.2,
      List.getLast?_concat, Option.bind_some]
    cases l.isStopped <;> rfl

/-- How a place has been treated, and whether it is still held, when nothing is under way. -/
structure Treated (key : StageKey) (log : List Exchange) (run : Run) : Prop where
  lived : Lived (eventsAt key log) (run.registry.get? key)
  balanced : starts (eventsAt key log) =
    stops (eventsAt key log) + if (run.registry.get? key).isSome then 1 else 0

theorem Chronicle.treated (chronicle : Chronicle (eventsAt key log) (run.lifeAt key)) :
    Treated key log run := by
  have lived := chronicle.lived
  rw [handle?_lifeAt] at lived
  exact ⟨lived, lived.balanced⟩

/-- How a place is treated while a call is waited for: so far it can still come to whole lifetimes,
and it is not held if the call is to start an instance there. -/
structure Treating (key : StageKey) (log : List Exchange) (run : Run) (call : Call) : Prop where
  living : ∃ later held,
    Lived (eventsAt key log ++ Exchange.eventsAt key ⟨call, Activity.refusal call⟩ ++ later) held
  vacant : ∀ options, call = .start options → options.key = key → run.registry.get? key = none

theorem treating_of_returned {past : List Exchange} {call : Call} {rest : List Exchange} {last : Run}
    (finished : Treated key (past ++ (log ++ ⟨call, Activity.refusal call⟩ :: rest)) last)
    (vacant : ∀ options, call = .start options → run.registry.get? options.key = none) :
    Treating key (past ++ log) run call where
  living := by
    refine ⟨eventsAt key rest, last.registry.get? key, ?_⟩
    have lived := finished.lived
    rwa [← List.append_assoc, eventsAt_append, eventsAt_cons, ← List.append_assoc] at lived
  vacant := by
    rintro options same rfl
    exact vacant options same

/-- All that is asked of a place, by the start of the run and by every request, whatever fails, is
late or is given up, is made of whole lifetimes, of which the run holds the last if it goes on. -/
theorem lifetimes_of_place {program : Program} {options : RunOptions}
    (made : RunContext.ofProgram program options = .ok c) (key : StageKey) :
    (∀ log run x, Returns start (.starting c) log run x → Treated key log run) ∧
    (∀ log run, Reached c log run → Treated key log run) ∧
    (∀ log run call, Awaits start (.starting c) log run call → Treating key log run call) ∧
    ∀ past run request log run' call, Reached c past run →
      Awaits (RunRequest.operation request) run log run' call →
      Treating key (past ++ log) run' call := by
  have accepted := RunContext.accepted_of_ofProgram made
  refine ⟨?_, ?_, ?_, ?_⟩
  · intro log run x returned
    exact (start_chronicle accepted returned).treated
  · intro log run reached
    exact (reached.chronicle accepted key).treated
  · intro log run call awaits
    obtain ⟨rest, last, x, returned, _⟩ := awaits.exists_returns
    rw [← List.nil_append log]
    apply treating_of_returned (start_chronicle accepted returned).treated
    rintro options rfl
    exact vacant_of_awaits_start accepted awaits
  · intro past run request log run' call reached awaits
    obtain ⟨rest, last, x, returned, _⟩ := awaits.exists_returns
    apply treating_of_returned ((reached.answered returned).chronicle accepted key).treated
    rintro options rfl
    exact vacant_of_awaits_request (sound_of_accepted accepted reached) awaits

theorem lone_awaits : ∃ run, Awaits (RunRequest.changeInstances "stage" 2).operation loneRun
    (loneGrowth.take 4) run (.start (loneContext.instanceOptions loneStage 1 2)) :=
  ⟨_, _, .next _ (.next _ (.next _ (.next _ (.here _))))⟩

/-- The place of the second instance before the stage grows, while it is about to be started, and
afterwards; and that of the first, if the stage has grown and if the run has failed instead. -/
theorem lone_treated :
    (Treated ⟨"stage", 1⟩ loneLog loneRun ∧
      (∃ run, Treating ⟨"stage", 1⟩ (loneLog ++ loneGrowth.take 4) run
        (.start (loneContext.instanceOptions loneStage 1 2))) ∧
      Treated ⟨"stage", 1⟩ (loneLog ++ loneGrowth) loneGrown) ∧
    Treated ⟨"stage", 0⟩ (loneLog ++ loneGrowth) loneGrown ∧
    Treated ⟨"stage", 0⟩ (loneLog ++ loneDecline) loneFailed := by
  obtain ⟨_, first, _, _⟩ := lifetimes_of_place lone_made ⟨"stage", 0⟩
  obtain ⟨_, second, _, under_way⟩ := lifetimes_of_place lone_made ⟨"stage", 1⟩
  obtain ⟨run, awaits⟩ := lone_awaits
  exact ⟨⟨second _ _ lone_reached, ⟨run, under_way _ _ _ _ _ _ lone_reached awaits⟩,
    second _ _ lone_reached_grown⟩, first _ _ lone_reached_grown, first _ _ lone_reached_failed⟩

end
end FlowRuntime
