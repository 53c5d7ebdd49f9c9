import FlowRuntime.Proofs.Run.Lifetime
import FlowRuntime.Proofs.Run.RescaleOutcome

/-!
Whom a run asks. A handle gets into the registry only by a start that was granted for its
place, and every fan-out goes to registered instances, to each of them once. We verify
this for all courses, whatever the answers.
-/
namespace FlowRuntime
open Operation

def Gave (log : List Exchange) (key : StageKey) (handle : Handle) : Prop :=
  ∃ options : InstanceOptions, options.key = key ∧ ⟨.start options, .ok handle⟩ ∈ log

/-- Whether a fan-out is for different places, each with an instance that is held or was started. -/
def Call.Addresses (held : Registry Handle) (log : List Exchange) : Call → Prop
  | .fanOut _ targets => (targets.map (·.1)).Nodup ∧
    ∀ t ∈ targets, held.get? t.1 = some t.2 ∨ Gave log t.1 t.2
  | _ => True

section
variable {c : RunContext} {run run' : Run} {log log' : List Exchange} {x : Outcome}
  {key : StageKey} {handle : Handle} {held : Registry Handle}

theorem Gave.left (gave : Gave log key handle) (log' : List Exchange) :
    Gave (log ++ log') key handle := by
  obtain ⟨options, here, mem⟩ := gave
  exact ⟨options, here, List.mem_append_left _ mem⟩

theorem Gave.right (gave : Gave log' key handle) (log : List Exchange) :
    Gave (log ++ log') key handle := by
  obtain ⟨options, here, mem⟩ := gave
  exact ⟨options, here, List.mem_append_right _ mem⟩

theorem Gave.of_refused (gave : Gave (log ++ log') key handle)
    (refused : ∀ e ∈ log', e.isGranted = false) : Gave log key handle := by
  obtain ⟨options, here, mem⟩ := gave
  rcases List.mem_append.mp mem with before | after
  · exact ⟨options, here, before⟩
  · exact absurd (refused _ after) (by simp [Exchange.isGranted])

theorem gave_iff_started : Gave log key handle ↔ .started handle ∈ eventsAt key log := by
  rw [eventsAt, List.mem_flatMap]
  constructor
  · rintro ⟨options, here, mem⟩
    exact ⟨_, mem, by simp [Exchange.eventsAt, here]⟩
  · rintro ⟨⟨call, answer⟩, mem, event⟩
    cases call with
    | bind groups => simp [Exchange.eventsAt] at event
    | repartition group => simp [Exchange.eventsAt] at event
    | fanOut op targets => simp [Exchange.eventsAt] at event
    | start options =>
      cases answer with
      | error e => simp [Exchange.eventsAt] at event
      | ok given =>
        by_cases here : options.key = key
        · simp only [Exchange.eventsAt, here, if_true, List.mem_singleton,
            InstanceEvent.started.injEq] at event
          exact ⟨options, here, event ▸ mem⟩
        · simp [Exchange.eventsAt, here] at event

theorem asked_of_mem {op : InstanceOp} (mem : .asked op handle ∈ eventsAt key log) :
    ∃ targets report, (⟨.fanOut op targets, report⟩ : Exchange) ∈ log ∧ (key, handle) ∈ targets := by
  obtain ⟨⟨call, answer⟩, within, event⟩ := List.mem_flatMap.mp mem
  cases call with
  | bind groups => simp [Exchange.eventsAt] at event
  | repartition group => simp [Exchange.eventsAt] at event
  | start options => cases answer <;> simp [Exchange.eventsAt] at event
  | fanOut op' targets =>
    simp only [Exchange.eventsAt, List.mem_map, List.mem_filter, decide_eq_true_eq,
      InstanceEvent.asked.injEq] at event
    obtain ⟨t, ⟨listed, rfl⟩, rfl, rfl⟩ := event
    exact ⟨targets, answer, within, listed⟩

theorem Lifetime.handle_of_mem {l : Lifetime} (mem : .started handle ∈ l.events) :
    l.handle = handle := by
  have paused : ∀ told, InstanceEvent.started handle ∉ Lifetime.pause l.handle told := by
    intro told
    cases told <;> simp [Lifetime.pause]
  simp only [Lifetime.events, List.mem_cons, List.mem_append, List.mem_flatMap] at mem
  rcases mem with here | ⟨told, _, within⟩ | suspended | stopped
  · cases here
    rfl
  · exact absurd within (paused told)
  · split at suspended <;> simp at suspended
  · split at stopped <;> simp at stopped

theorem Lifetime.stop_mem {l : Lifetime} (stopped : l.isStopped = true) :
    .asked .stop l.handle ∈ l.events := by
  simp [Lifetime.events, stopped]

theorem Lifetime.stop_mem_of_two {events later : List InstanceEvent} {handle' : Handle}
    {lives : List Lifetime} (whole : events ++ later = lives.flatMap Lifetime.events)
    (finished : ∀ l ∈ lives.dropLast, l.isStopped = true) (first : .started handle ∈ events)
    (second : .started handle' ∈ events) (apart : handle ≠ handle') :
    .asked .stop handle ∈ events ∨ .asked .stop handle' ∈ events := by
  induction lives generalizing events with
  | nil =>
    obtain ⟨rfl, _⟩ := List.append_eq_nil_iff.mp whole
    cases first
  | cons l rest ih =>
    have foreign : ¬ (.started handle ∈ l.events ∧ .started handle' ∈ l.events) := fun ⟨one, two⟩ =>
      apart ((Lifetime.handle_of_mem one).symm.trans (Lifetime.handle_of_mem two))
    rw [List.flatMap_cons] at whole
    rcases List.append_eq_append_iff.mp whole with ⟨more, split, _⟩ | ⟨events', rfl, onward⟩
    · exact absurd ⟨split ▸ List.mem_append_left _ first, split ▸ List.mem_append_left _ second⟩ foreign
    · cases rest with
      | nil =>
        obtain ⟨rfl, _⟩ := List.append_eq_nil_iff.mp onward.symm
        rw [List.append_nil] at first second
        exact absurd ⟨first, second⟩ foreign
      | cons l' rest =>
        obtain ⟨ended, others⟩ := List.forall_mem_cons.mp finished
        have stopped := List.mem_append_left events' (Lifetime.stop_mem ended)
        rcases List.mem_append.mp first with one | one
        · exact .inl (Lifetime.handle_of_mem one ▸ stopped)
        · rcases List.mem_append.mp second with two | two
          · exact .inr (Lifetime.handle_of_mem two ▸ stopped)
          · exact (ih onward.symm others one two).imp (List.mem_append_right _)
              (List.mem_append_right _)

theorem Lived.stop_mem_of_two {events later : List InstanceEvent} {held : Option Handle}
    {handle' : Handle} (lived : Lived (events ++ later) held) (first : .started handle ∈ events)
    (second : .started handle' ∈ events) (apart : handle ≠ handle') :
    .asked .stop handle ∈ events ∨ .asked .stop handle' ∈ events := by
  obtain ⟨lives, whole, finished, _⟩ := lived
  exact Lifetime.stop_mem_of_two whole finished first second apart

theorem Lived.stop_mem {events : List InstanceEvent} (lived : Lived events none) (started : .started handle ∈ events) :
    .asked .stop handle ∈ events := by
  obtain ⟨lives, rfl, finished, last⟩ := lived
  obtain ⟨l, mem, here⟩ := List.mem_flatMap.mp started
  refine List.mem_flatMap.mpr ⟨l, mem, ?_⟩
  rw [← Lifetime.handle_of_mem here]
  apply Lifetime.stop_mem
  rcases List.eq_nil_or_concat lives with rfl | ⟨past, l', rfl⟩
  · cases mem
  · rw [List.concat_eq_append] at finished last mem
    rw [List.dropLast_concat] at finished
    rcases List.mem_append.mp mem with before | here
    · exact finished l before
    · rw [List.mem_singleton.mp here]
      simpa using last

theorem Lived.started_of_held {events : List InstanceEvent} (lived : Lived events (some handle)) :
    .started handle ∈ events := by
  obtain ⟨lives, rfl, _, held⟩ := lived
  obtain ⟨l, last, going⟩ := Option.bind_eq_some_iff.mp held.symm
  split at going
  · cases going
  · cases going
    rw [List.mem_flatMap]
    exact ⟨l, List.mem_of_getLast? last, List.mem_cons_self⟩

theorem Reached.gave (accepted : c.flow.Accepted) (reached : Reached c log run)
    (found : run.registry.get? key = some handle) : Gave log key handle := by
  have lived := (reached.chronicle accepted key).treated.lived
  rw [found] at lived
  exact gave_iff_started.mpr lived.started_of_held

theorem addresses_stage (op : InstanceOp) {r : Registry Handle} (stage : String)
    (known : ∀ key handle, r.get? key = some handle → held.get? key = some handle) :
    (Call.fanOut op (Registry.stage r stage)).Addresses held log := by
  refine ⟨(lists_stage r stage ⟨stage, 0⟩).1, fun t mem => .inl ?_⟩
  exact known t.1 t.2 (Registry.mem_stage.mp mem).2

theorem addresses_all (op : InstanceOp) {r : Registry Handle}
    (known : ∀ key handle, r.get? key = some handle → held.get? key = some handle ∨
      Gave log key handle) : (Call.fanOut op (Registry.all r)).Addresses held log :=
  ⟨(lists_all r ⟨"", 0⟩).1, fun t mem => known t.1 t.2 (SortedMap.mem_entries.mp mem)⟩

theorem Regrouped.addresses {r : Registry Handle} {stage : String} {target : Nat}
    (around : Regrouped c stage (Registry.stage r stage) target log x)
    (known : ∀ key handle, r.get? key = some handle → held.get? key = some handle)
    (log' : List Exchange) : ∀ e ∈ log, e.call.Addresses held log' := by
  have each (op : InstanceOp) : (Call.fanOut op (Registry.stage r stage)).Addresses held log' :=
    addresses_stage op stage known
  cases around <;> simp [each] <;> trivial

theorem Started.addresses {openings : List Opening} {begun : List (StageKey × Handle)}
    (started : Started c openings log begun x) (log' : List Exchange) :
    ∀ e ∈ log, e.call.Addresses held log' := by
  intro e mem
  obtain ⟨o, _, same⟩ := started.only_starts mem
  rw [same]
  trivial

theorem Reshaped.addresses {count : String → Nat} (numbered : Registry.Numbered run.registry count)
    {spec : StageSpec} {target : Nat} {registry : Registry Handle}
    (work : Reshaped run spec (count spec.name) target log registry x) (log' : List Exchange) :
    ∀ e ∈ log, e.call.Addresses run.registry log' := by
  cases work with
  | kept more around => exact around.addresses (fun _ _ => id) log'
  | grown more around started =>
    exact List.forall_mem_append.mpr
      ⟨around.addresses (fun _ _ => id) log', started.addresses log'⟩
  | shrunk fewer stopped around =>
    refine List.forall_mem_cons.mpr ⟨⟨?_, fun t mem => .inl (mem_excess.mp mem).2.2⟩, ?_⟩
    · exact (lists_excess numbered spec.name target ⟨"", 0⟩).1
    · apply around.addresses
      intro key handle found
      rw [get?_remaining numbered] at found
      split at found
      · cases found
      · exact found

theorem Carried.addresses (sound : Sound c run) (carried : Carried run log run') :
    ∀ e ∈ log, e.call.Addresses run.registry log := by
  have all (op : InstanceOp) (log : List Exchange) :
      (Call.fanOut op (Registry.all run.registry)).Addresses run.registry log :=
    addresses_all op fun _ _ => .inl
  cases carried with
  | idle => simp
  | suspended alive report => simpa using all .suspend _
  | resumed suspended report => simpa using all .resume _
  | stopped going report => simpa using all .stop _
  | @rescaled stage target spec due _ _ x course =>
    have staffed := (sound.staffed (.inl due.alive)).keys
    have named := FlowSpec.name_of_stage? due.found
    rw [← named] at course
    cases course with
    | complete work => exact work.addresses staffed log
    | @failed log registry cause work report =>
      refine List.forall_mem_append.mpr ⟨work.addresses staffed _, List.forall_mem_singleton.mpr ?_⟩
      apply addresses_all
      intro key handle found
      rcases (work.get?_eq_some_iff staffed).mp found with ⟨before, _⟩ | ⟨options, here, mem⟩
      · exact .inl before
      · exact .inr (Gave.left ⟨options, here, mem⟩ _)

theorem Operation.Startup.addresses (accepted : c.flow.Accepted) (startup : Startup (.starting c) log run x) :
    ∀ e ∈ log, e.call.Addresses .empty log := by
  cases startup with
  | unbound e => exact List.forall_mem_singleton.mpr trivial
  | @withdrawn log begun e started report =>
    refine List.forall_mem_append.mpr
      ⟨List.forall_mem_cons.mpr ⟨trivial, started.addresses _⟩, List.forall_mem_singleton.mpr ?_⟩
    apply addresses_all
    intro key handle found
    have nodup : (begun.map (·.1)).Nodup :=
      started.keys_prefix.sublist.nodup (ofStages_keys_nodup accepted.names_nodup)
    have listed : (key, handle) ∈ begun := by
      have placed := (SortedMap.get?_insertAll_eq_some_iff _ nodup fun _ _ => rfl).mp found
      exact placed.resolve_left (by simp [Run.starting])
    obtain ⟨options, here, mem⟩ := started.mem_begun_iff.mp listed
    exact .inr ⟨options, here, List.mem_append_left _ (List.mem_cons_of_mem _ mem)⟩
  | complete started => exact List.forall_mem_cons.mpr ⟨trivial, started.addresses _⟩

end
end FlowRuntime
