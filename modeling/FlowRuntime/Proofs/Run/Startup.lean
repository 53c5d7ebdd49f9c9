import FlowRuntime.Proofs.Run.Handles
import FlowRuntime.Proofs.Run.RescaleOrder

/-!
Starts are all or nothing. A program can be started if its flow is declared and passes its
check; then its queues are bound, and its instances are started stage by stage up to the first
that fails. We verify, for all answers, that a start comes to a run exactly if everything
was granted, and that otherwise whoever had been started is told to stop, once and in the
order of the registry, and the run is as if nothing had happened.
-/
namespace FlowRuntime
open Operation Rehearsal

structure Startable (program : Program) (flow : FlowSpec) : Prop where
  isFlow : program.id.programType = .flow
  declared : program.application.flow? program.id.name = some flow
  valid : flow.validate = .ok ()

def RunContext.ofFlow (program : Program) (options : RunOptions) (flow : FlowSpec) : RunContext :=
  ⟨⟨program.id, options.runId⟩, flow, options⟩

theorem Startable.made {program : Program} {flow : FlowSpec} (startable : Startable program flow)
    (options : RunOptions) :
    RunContext.ofProgram program options = .ok (.ofFlow program options flow) := by
  simp [RunContext.ofProgram, RunContext.ofFlow, startable.isFlow, startable.declared,
    startable.valid]

theorem RunContext.ofProgram_ok_iff {program : Program} {options : RunOptions} {c : RunContext} :
    RunContext.ofProgram program options = .ok c ↔
      ∃ flow, Startable program flow ∧ c = .ofFlow program options flow := by
  constructor
  · intro made
    unfold RunContext.ofProgram at made
    split at made
    · cases made
    · rename_i isFlow
      split at made
      · cases made
      · rename_i flow declared
        split at made
        · cases made
        · rename_i valid
          cases made
          exact ⟨flow, ⟨Decidable.not_not.mp isFlow, declared, valid⟩, rfl⟩
  · rintro ⟨flow, startable, rfl⟩
    exact startable.made options

def RunContext.starts (c : RunContext) : List InstanceOptions :=
  c.flow.stages.flatMap fun s =>
    (List.range s.instances.toNat).map fun id => c.instanceOptions s id s.instances.toNat

theorem RunContext.starts_eq (c : RunContext) :
    c.starts = (Opening.ofStages c.flow.stages).map (·.options c) := by
  simp only [RunContext.starts, Opening.ofStages, List.map_flatMap]
  congr 1
  funext s
  rw [Opening.ofStage, List.map_map, ← List.range_eq_range']
  rfl

theorem started_calls {c : RunContext} {openings : List Opening} {log : List Exchange}
    {begun : List (StageKey × Handle)} (started : Started c openings log begun (.ok ())) :
    callsOf log = openings.map fun o => .start (o.options c) := by
  generalize same : (Except.ok () : Outcome) = x at started
  induction started with
  | all => rfl
  | failed o rest e => cases same
  | next o handle later ih => rw [callsOf_cons, ih same, Call.logged, List.map_cons, List.singleton_append]

/-- A start was refused at `o`, when these instances had been started: they are told to stop, once
each, and nobody else is. -/
structure Withdrawn (c : RunContext) (log : List Exchange) (x : Outcome)
    (begun : List InstanceOptions) (o : InstanceOptions) (e : Failure) : Prop where
  first : begun ++ [o] <+: c.starts
  granted : ∀ b ∈ begun, ∃ handle : Handle, ⟨.start b, .ok handle⟩ ∈ log
  refused : ⟨.start o, .error e⟩ ∈ log
  calls : callsOf log = .bind c.consumerGroups :: (begun ++ [o]).map .start ++
    (inOrder (begun.map (·.key))).map (.request .stop)
  stopped : ∃ targets report, log.getLast? = some ⟨.fanOut .stop targets, report⟩ ∧
    (targets.map (·.1)).Nodup ∧ ∀ key handle, (key, handle) ∈ targets ↔ Gave log key handle
  reason : x = .error (.startupFailed (.within (.startingInstance o.key) e))

structure AllOrNothing (c : RunContext) (log : List Exchange) (run : Run) (x : Outcome) : Prop where
  ok_iff : x = .ok () ↔ ⟨.bind c.consumerGroups, .ok ()⟩ ∈ log ∧
    ∀ o ∈ c.starts, ∃ handle : Handle, ⟨.start o, .ok handle⟩ ∈ log
  complete : x = .ok () → callsOf log = .bind c.consumerGroups :: c.starts.map .start
  unbound : ∀ e, ⟨.bind c.consumerGroups, .error e⟩ ∈ log →
    callsOf log = [.bind c.consumerGroups] ∧ x = .error (.within (.bindingQueues c.run) e)
  withdrawn : ⟨.bind c.consumerGroups, .ok ()⟩ ∈ log → x ≠ .ok () →
    ∃ begun o e, Withdrawn c log x begun o e
  untouched : x ≠ .ok () → run.state = .starting ∧ run.story = [] ∧ run.registry = .empty

section
variable {c : RunContext} {log : List Exchange} {begun : List (StageKey × Handle)} {run : Run}
  {x : Outcome}

theorem Started.cut {openings : List Opening} {f : Failure}
    (started : Started c openings log begun (.error f)) :
    ∃ past o rest e, openings = past ++ o :: rest ∧ begun.map (·.1) = past.map Opening.key ∧
      callsOf log = (past ++ [o]).map (fun o => .start (o.options c)) ∧
      (∀ p ∈ past, ∃ handle : Handle, ⟨.start (p.options c), .ok handle⟩ ∈ log) ∧
      ⟨.start (o.options c), .error e⟩ ∈ log ∧ f = .within (.startingInstance o.key) e := by
  generalize same : (Except.error f : Outcome) = y at started
  induction started with
  | all => cases same
  | failed o rest e =>
    cases same
    exact ⟨[], o, rest, e, rfl, rfl, rfl, by simp, List.mem_cons_self, rfl⟩
  | next o given later ih =>
    obtain ⟨past, o', rest, e, rfl, keys, calls, granted, refused, reason⟩ := ih same
    refine ⟨o :: past, o', rest, e, rfl, by simp [keys], by simp [calls, Call.logged], ?_,
      List.mem_cons_of_mem _ refused, reason⟩
    intro p mem
    rcases List.mem_cons.mp mem with rfl | later
    · exact ⟨given, List.mem_cons_self⟩
    · obtain ⟨handle, within⟩ := granted p later
      exact ⟨handle, List.mem_cons_of_mem _ within⟩

theorem keys_insertAll {ρ : Type} (entries : List (StageKey × ρ)) :
    (Registry.all (SortedMap.empty.insertAll entries)).map (·.1) = inOrder (entries.map (·.1)) := by
  apply SortedMap.ascending_unique (SortedMap.keys_ascending _) (inOrder_ascending _)
  intro key
  rw [mem_inOrder, SortedMap.mem_keys_insertAll]
  simp [SortedMap.keys, SortedMap.empty]

theorem withdrawn_of_started (accepted : c.flow.Accepted) {f : Failure}
    (started : Started c (Opening.ofStages c.flow.stages) log begun (.error f))
    (report : Report StageKey) :
    ∃ past o e, Withdrawn c (⟨.bind c.consumerGroups, .ok ()⟩ :: log ++
      [⟨.fanOut .stop (Registry.all (SortedMap.empty.insertAll begun)), report⟩])
      (.error (.startupFailed f)) past o e := by
  obtain ⟨past, o, rest, e, split, keys, calls, granted, refused, rfl⟩ := started.cut
  refine ⟨past.map (·.options c), o.options c, e, ?_⟩
  have within {e : Exchange} (mem : e ∈ log) : e ∈ (⟨.bind c.consumerGroups, .ok ()⟩ :: log ++
      [⟨.fanOut .stop (Registry.all (SortedMap.empty.insertAll begun)), report⟩] : List Exchange) :=
    List.mem_append_left _ (List.mem_cons_of_mem _ mem)
  refine ⟨?_, ?_, within refused, ?_, ?_, rfl⟩
  · rw [c.starts_eq, split]
    exact ⟨rest.map (·.options c), by simp⟩
  · intro b mem
    obtain ⟨p, listed, rfl⟩ := List.mem_map.mp mem
    obtain ⟨handle, mem⟩ := granted p listed
    exact ⟨handle, within mem⟩
  · have places : (past.map (·.options c)).map (·.key) = begun.map (·.1) := by
      rw [keys, List.map_map]
      rfl
    rw [places, ← keys_insertAll]
    simp [calls, Call.logged, Function.comp_def]
  · have nodup : (begun.map (·.1)).Nodup :=
      started.keys_prefix.sublist.nodup (ofStages_keys_nodup accepted.names_nodup)
    refine ⟨_, report, List.getLast?_concat, (lists_all _ ⟨"", 0⟩).1, fun key handle => ?_⟩
    have placed := SortedMap.get?_insertAll_eq_some_iff (k := key) (v := handle) SortedMap.empty nodup
      fun _ _ => rfl
    rw [Registry.all, SortedMap.mem_entries, placed, started.mem_begun_iff]
    simp [Gave, SortedMap.get?_empty]

theorem allOrNothing_of_returns (accepted : c.flow.Accepted)
    (returned : Returns start (.starting c) log run x) : AllOrNothing c log run x := by
  have startup := returns_start returned
  generalize begins : Run.starting c = first at startup
  cases startup with
  | unbound e =>
    cases begins
    exact {
      ok_iff := by simp
      complete := by simp
      unbound := by simp [Call.logged, Run.starting]
      withdrawn := by simp
      untouched := fun _ => ⟨rfl, rfl, rfl⟩ }
  | @withdrawn log begun f started report =>
    cases begins
    have failed := started.ok_iff (ofStages_keys_nodup accepted.names_nodup)
    have only (o : InstanceOptions) (handle : Handle) :
        ⟨.start o, .ok handle⟩ ∈ (⟨.bind c.consumerGroups, .ok ()⟩ :: log ++
          [⟨.fanOut .stop (Registry.all (SortedMap.empty.insertAll begun)), report⟩] : List Exchange) ↔
        (⟨.start o, .ok handle⟩ : Exchange) ∈ log := by simp
    exact {
      ok_iff := by
        simp only [reduceCtorEq, false_iff, not_and]
        intro _ granted
        refine absurd (failed.mpr fun o mem => ?_) (by simp)
        obtain ⟨handle, within⟩ := granted (o.options c) (c.starts_eq ▸ List.mem_map_of_mem mem)
        exact ⟨handle, (only _ _).mp within⟩
      complete := by simp
      unbound := by
        intro e mem
        have apart : (⟨.bind c.consumerGroups, .error e⟩ : Exchange) ∉ log := by
          intro within
          obtain ⟨o, _, same⟩ := started.only_starts within
          cases same
        simp [Run.starting, apart] at mem
      withdrawn := fun _ _ => withdrawn_of_started accepted started report
      untouched := fun _ => ⟨rfl, rfl, rfl⟩ }
  | @complete log begun started =>
    cases begins
    have finished := started.ok_iff (ofStages_keys_nodup accepted.names_nodup)
    exact {
      ok_iff := by
        refine iff_of_true rfl ⟨List.mem_cons_self, fun o mem => ?_⟩
        rw [c.starts_eq] at mem
        obtain ⟨opening, listed, rfl⟩ := List.mem_map.mp mem
        obtain ⟨handle, within⟩ := finished.mp rfl opening listed
        exact ⟨handle, List.mem_cons_of_mem _ within⟩
      complete := by
        intro _
        rw [callsOf_cons, started_calls started, c.starts_eq, List.map_map]
        rfl
      unbound := by
        intro e mem
        rcases List.mem_cons.mp mem with here | within
        · cases here
        · obtain ⟨o, _, same⟩ := started.only_starts within
          cases same
      withdrawn := fun _ failed => absurd rfl failed
      untouched := fun failed => absurd rfl failed }

end
end FlowRuntime
