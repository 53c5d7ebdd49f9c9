import FlowRuntime.Proofs.Instance.Local
import FlowRuntime.Proofs.Run.Course

/-!
The instances and the partitioner of a rehearsal, through the calls of a run. What an
instance has not read yet it will read in its order, so it is known beforehand what it
comes to. A request either gets to its instance and is handled after all before it, or
is reported as failed; then it may have got there or not, and may still wait to be read.
When all is calm, nothing is lost on the way: every call is answered by whom it is for.
-/
namespace FlowRuntime.Rehearsal

namespace Resident

def ahead (r : Resident) : LocalInstance := (r.self.handleQueue (r.mail.map (·.op))).1

/-- Nothing has been asked of it in the meantime, though it may have read its mail. -/
structure Keeps (r r' : Resident) : Prop where
  ahead : r'.ahead = r.ahead
  read : r.mail = [] → r'.mail = []
  stopped : r.self.state = .stopped → r'.self.state = .stopped

/-- It has handled a request, and all before it. -/
structure Heeds (op : InstanceOp) (answer : Outcome) (r r' : Resident) : Prop where
  read : r'.mail = []
  responds : r.ahead.Responds op r'.self answer

/-- Nobody knows whether a request has got to it. -/
structure Misses (op : InstanceOp) (r r' : Resident) : Prop where
  ahead : r'.ahead = r.ahead ∨ ∃ answer, r.ahead.Responds op r'.ahead answer
  stopped : r.self.state = .stopped → r'.self.state = .stopped

/-- What becomes of a request that is reported with this outcome. -/
def Meets (calm : Prop) (op : InstanceOp) (outcome : Outcome) (r r' : Resident) : Prop :=
  r.Heeds op outcome r' ∨ (¬ calm ∧ (∃ e, outcome = .error e) ∧ r.Misses op r')

section
variable {r r' r'' : Resident} {op : InstanceOp} {outcome : Outcome} {calm : Prop}

theorem ahead_of_read (read : r.mail = []) : r.ahead = r.self := by
  rw [ahead, read]
  rfl

theorem ahead_of_stopped (stopped : r.self.state = .stopped) : r.ahead = r.self := by
  rw [ahead, LocalInstance.handleQueue_stopped stopped]

theorem ahead_key (r : Resident) : r.ahead.key = r.self.key := LocalInstance.handleQueue_key _ _

theorem Keeps.refl (r : Resident) : r.Keeps r := ⟨rfl, id, id⟩

theorem Keeps.trans (first : r.Keeps r') (second : r'.Keeps r'') : r.Keeps r'' where
  ahead := second.ahead.trans first.ahead
  read := second.read ∘ first.read
  stopped := second.stopped ∘ first.stopped

theorem Keeps.key (keeps : r.Keeps r') : r'.self.key = r.self.key := by
  rw [← ahead_key, keeps.ahead, ahead_key]

theorem Keeps.self (keeps : r.Keeps r') (read : r.mail = []) : r'.self = r.self := by
  rw [← ahead_of_read read, ← ahead_of_read (keeps.read read), keeps.ahead]

theorem Heeds.stopped (heeds : r.Heeds op outcome r') (stopped : r.self.state = .stopped) :
    r'.self.state = .stopped := by
  have same := ahead_of_stopped stopped
  have still := heeds.responds.stays_stopped (same ▸ stopped)
  rw [still, same, stopped]

theorem Heeds.misses (heeds : r.Heeds op outcome r') : r.Misses op r' where
  ahead := by
    rw [ahead_of_read heeds.read]
    exact .inr ⟨outcome, heeds.responds⟩
  stopped := heeds.stopped

theorem Heeds.since (heeds : r'.Heeds op outcome r'') (before : r.Keeps r') :
    r.Heeds op outcome r'' := ⟨heeds.read, before.ahead ▸ heeds.responds⟩

theorem Heeds.keeps (heeds : r.Heeds op outcome r') (after : r'.Keeps r'') :
    r.Heeds op outcome r'' where
  read := after.read heeds.read
  responds := by
    rw [after.self heeds.read]
    exact heeds.responds

theorem Misses.since (misses : r'.Misses op r'') (before : r.Keeps r') : r.Misses op r'' where
  ahead := before.ahead ▸ misses.ahead
  stopped := misses.stopped ∘ before.stopped

theorem Misses.key (misses : r.Misses op r') : r'.self.key = r.self.key := by
  rw [← ahead_key, ← ahead_key]
  rcases misses.ahead with same | ⟨answer, responds⟩
  · rw [same]
  · exact responds.key

theorem Meets.since (meets : r'.Meets calm op outcome r'') (before : r.Keeps r') :
    r.Meets calm op outcome r'' :=
  meets.imp (·.since before) fun missed => ⟨missed.1, missed.2.1, missed.2.2.since before⟩

theorem Meets.misses (meets : r.Meets calm op outcome r') : r.Misses op r' :=
  meets.elim (·.misses) (·.2.2)

theorem Meets.heeds (meets : r.Meets calm op (.ok ()) r') : r.Heeds op (.ok ()) r' := by
  rcases meets with heeds | ⟨_, ⟨e, failed⟩, _⟩
  · exact heeds
  · cases failed

end
end Resident

namespace World

def Each (R : Handle → Resident → Resident → Prop) (w w' : World) : Prop :=
  ∀ (handle : Handle) r, w.residents[handle]? = some r →
    ∃ r', w'.residents[handle]? = some r' ∧ R handle r r'

structure Keeps (w w' : World) : Prop where
  size : w'.residents.size = w.residents.size
  each : Each (fun _ => Resident.Keeps) w w'
  partitioner : w'.partitioner = w.partitioner

/-- The targets of a fan-out are different residents, each in its own place. -/
structure Knows (w : World) (targets : List (StageKey × Handle)) : Prop where
  nodup : (targets.map (·.1)).Nodup
  there : ∀ t ∈ targets, ∃ r, w.residents[t.2]? = some r ∧ r.self.key = t.1

/-- Assignments that are asked for are answered by the partitioner; unless all is calm, they may fail
before they get there. -/
def Assigns (calm : Prop) (p : Partitioner) (groups : List ConsumerGroup) (answer : Outcome)
    (p' : Partitioner) : Prop :=
  (p', answer) = p.bind groups ∨ (¬ calm ∧ p' = p ∧ ∃ e, answer = .error e)

def Answers (calm : Prop) (w : World) : Exchange → World → Prop
  | ⟨.bind groups, answer⟩, w' =>
    w'.residents.size = w.residents.size ∧ Each (fun _ => Resident.Keeps) w w' ∧
      Assigns calm w.partitioner groups answer w'.partitioner
  | ⟨.repartition group, answer⟩, w' =>
    w'.residents.size = w.residents.size ∧ Each (fun _ => Resident.Keeps) w w' ∧
      Assigns calm w.partitioner [group] answer w'.partitioner
  | ⟨.start options, .error e⟩, w' =>
    w.Keeps w' ∧ (LocalInstance.start options = .error e ∨ ¬ calm)
  | ⟨.start options, .ok handle⟩, w' =>
    handle = w.residents.size ∧ w'.residents.size = handle + 1 ∧
      Each (fun _ => Resident.Keeps) w w' ∧ w'.partitioner = w.partitioner ∧
      ∃ r, w'.residents[handle]? = some r ∧ LocalInstance.start options = .ok r.self ∧ r.mail = []
  | ⟨.fanOut op targets, report⟩, w' =>
    w.Knows targets ∧ w'.residents.size = w.residents.size ∧ w'.partitioner = w.partitioner ∧
      ∃ outcomes : List Outcome, outcomes.length = targets.length ∧
        report = FanOut.report ((targets.map (·.1)).zip outcomes) ∧
        Each (fun handle r r' =>
          (handle ∉ targets.map (·.2) → r.Keeps r') ∧
          ∀ key outcome, ((key, handle), outcome) ∈ targets.zip outcomes →
            r.Meets calm op outcome r') w w'

def AnswersAll (calm : Prop) (w : World) : List Exchange → World → Prop
  | [], w' => w.Keeps w'
  | e :: rest, w' => ∃ v, w.Answers calm e v ∧ v.AnswersAll calm rest w'

section
variable {w w' w'' : World} {calm : Prop}

theorem Each.imp {R S : Handle → Resident → Resident → Prop} (each : Each R w w')
    (weaker : ∀ handle r r', R handle r r' → S handle r r') : Each S w w' := by
  intro handle r found
  obtain ⟨r', found', related⟩ := each handle r found
  exact ⟨r', found', weaker _ _ _ related⟩

theorem Each.comp {R S T : Handle → Resident → Resident → Prop} (first : Each R w w')
    (second : Each S w' w'')
    (both : ∀ handle r r' r'', R handle r r' → S handle r' r'' → T handle r r'') :
    Each T w w'' := by
  intro handle r found
  obtain ⟨r', found', here⟩ := first handle r found
  obtain ⟨r'', found'', there⟩ := second handle r' found'
  exact ⟨r'', found'', both _ _ _ _ here there⟩

theorem Each.trans (first : Each (fun _ => Resident.Keeps) w w')
    (second : Each (fun _ => Resident.Keeps) w' w'') : Each (fun _ => Resident.Keeps) w w'' :=
  first.comp second fun _ _ _ _ => .trans

theorem Keeps.refl (w : World) : w.Keeps w := ⟨rfl, fun _ r found => ⟨r, found, .refl r⟩, rfl⟩

theorem Keeps.trans (first : w.Keeps w') (second : w'.Keeps w'') : w.Keeps w'' :=
  ⟨second.size.trans first.size, first.each.trans second.each,
    second.partitioner.trans first.partitioner⟩

theorem Keeps.exists_before (keeps : w.Keeps w') {handle : Handle} {r' : Resident}
    (found : w'.residents[handle]? = some r') :
    ∃ r, w.residents[handle]? = some r ∧ r.Keeps r' := by
  have within := (Array.getElem?_eq_some_iff.mp found).1
  rw [keeps.size] at within
  have before := Array.getElem?_eq_getElem within
  obtain ⟨r'', found', kept⟩ := keeps.each handle _ before
  rw [found] at found'
  cases found'
  exact ⟨_, before, kept⟩

theorem Knows.since {targets : List (StageKey × Handle)} (knows : w'.Knows targets)
    (before : w.Keeps w') : w.Knows targets where
  nodup := knows.nodup
  there := by
    intro t mem
    obtain ⟨r', found, here⟩ := knows.there t mem
    obtain ⟨r, found, kept⟩ := before.exists_before found
    exact ⟨r, found, kept.key ▸ here⟩

theorem Knows.apart {targets : List (StageKey × Handle)} (knows : w.Knows targets) :
    (targets.map (·.2)).Nodup := by
  obtain ⟨nodup, there⟩ := knows
  induction targets with
  | nil => exact List.nodup_nil
  | cons head rest ih =>
    rw [List.map_cons, List.nodup_cons] at nodup ⊢
    obtain ⟨first, others⟩ := List.forall_mem_cons.mp there
    refine ⟨?_, ih nodup.2 others⟩
    intro again
    obtain ⟨t, mem, same⟩ := List.mem_map.mp again
    obtain ⟨r, found, here⟩ := first
    obtain ⟨r', found', there'⟩ := others t mem
    rw [same, found] at found'
    cases found'
    exact nodup.1 (here ▸ there' ▸ List.mem_map_of_mem mem)

theorem Knows.mem_iff {targets : List (StageKey × Handle)} (knows : w.Knows targets)
    {handle : Handle} {r : Resident} (found : w.residents[handle]? = some r) :
    handle ∈ targets.map (·.2) ↔ (r.self.key, handle) ∈ targets := by
  constructor
  · intro mem
    obtain ⟨⟨key, _⟩, listed, rfl⟩ := List.mem_map.mp mem
    obtain ⟨r', found', rfl⟩ := knows.there _ listed
    rw [found] at found'
    cases found'
    exact listed
  · exact fun listed => List.mem_map_of_mem listed

theorem Answers.since {e : Exchange} (answers : w'.Answers calm e w'') (before : w.Keeps w') :
    w.Answers calm e w'' := by
  obtain ⟨call, answer⟩ := e
  cases call with
  | bind groups =>
    obtain ⟨size, each, assigns⟩ := answers
    exact ⟨size.trans before.size, before.each.trans each, before.partitioner ▸ assigns⟩
  | repartition group =>
    obtain ⟨size, each, assigns⟩ := answers
    exact ⟨size.trans before.size, before.each.trans each, before.partitioner ▸ assigns⟩
  | start options =>
    cases answer with
    | error e => exact ⟨before.trans answers.1, answers.2⟩
    | ok handle =>
      obtain ⟨here, size, each, partitioner, fresh⟩ := answers
      exact ⟨here.trans before.size, size, before.each.trans each,
        partitioner.trans before.partitioner, fresh⟩
  | fanOut op targets =>
    obtain ⟨knows, size, partitioner, outcomes, length, reported, each⟩ := answers
    refine ⟨knows.since before, size.trans before.size, partitioner.trans before.partitioner, outcomes, length, reported,
      before.each.comp each ?_⟩
    intro handle r r' r'' kept met
    exact ⟨fun apart => kept.trans (met.1 apart),
      fun key outcome listed => (met.2 key outcome listed).since kept⟩

theorem AnswersAll.since {log : List Exchange} (answers : w'.AnswersAll calm log w'')
    (before : w.Keeps w') : w.AnswersAll calm log w'' := by
  cases log with
  | nil => exact before.trans answers
  | cons e rest =>
    obtain ⟨v, first, others⟩ := answers
    exact ⟨v, first.since before, others⟩

theorem answersAll_append {log log' : List Exchange} :
    w.AnswersAll calm (log ++ log') w'' ↔
      ∃ v, w.AnswersAll calm log v ∧ v.AnswersAll calm log' w'' := by
  induction log generalizing w with
  | nil =>
    constructor
    · intro answers
      exact ⟨w, .refl w, answers⟩
    · rintro ⟨v, kept, answers⟩
      exact answers.since kept
  | cons e rest ih =>
    simp only [List.cons_append, AnswersAll, ih]
    constructor
    · rintro ⟨v, first, u, second, third⟩
      exact ⟨u, ⟨v, first, second⟩, third⟩
    · rintro ⟨u, ⟨v, first, second⟩, third⟩
      exact ⟨v, first, u, second, third⟩

theorem AnswersAll.keeps {log : List Exchange} (answers : w.AnswersAll calm log w')
    (after : w'.Keeps w'') : w.AnswersAll calm log w'' := by
  rw [← List.append_nil log]
  exact answersAll_append.mpr ⟨w', answers, after⟩

/-! ### One resident -/

theorem mem_failed {targets : List (StageKey × Handle)} {outcomes : List Outcome} {key : StageKey}
    {handle : Handle} {e : Failure}
    (listed : ((key, handle), (.error e : Outcome)) ∈ targets.zip outcomes) :
    (key, e) ∈ (FanOut.report ((targets.map (·.1)).zip outcomes)).failed := by
  have mem : (key, (.error e : Outcome)) ∈ (targets.map (·.1)).zip outcomes := by
    rw [List.zip_map_left]
    exact List.mem_map.mpr ⟨_, listed, rfl⟩
  exact List.mem_filterMap.mpr ⟨_, mem, rfl⟩

theorem exists_outcome {targets : List (StageKey × Handle)} {outcomes : List Outcome}
    (count : outcomes.length = targets.length) {handle : Handle}
    (asked : handle ∈ targets.map (·.2)) :
    ∃ key outcome, ((key, handle), outcome) ∈ targets.zip outcomes := by
  obtain ⟨⟨key, _⟩, listed, rfl⟩ := List.mem_map.mp asked
  obtain ⟨i, at_i⟩ := List.getElem?_of_mem listed
  have within := (List.getElem?_eq_some_iff.mp at_i).1
  rw [← count] at within
  exact ⟨key, outcomes.get ⟨i, within⟩, List.mem_of_getElem?
    (List.getElem?_zip_eq_some.mpr ⟨at_i, List.getElem?_eq_getElem within⟩)⟩

/-- What an exchange means to one resident. Only a fan-out to it can ask it for something, and if it
may not have done that, it is reported. -/
inductive Affects (calm : Prop) (e : Exchange) (handle : Handle) (r r' : Resident) : Prop where
  | passed (keeps : r.Keeps r')
      (apart : ∀ op targets, e.call = .fanOut op targets → handle ∉ targets.map (·.2))
  | asked {op : InstanceOp} {targets : List (StageKey × Handle)} {report : Report StageKey}
      {key : StageKey} {outcome : Outcome} (same : e = ⟨.fanOut op targets, report⟩)
      (listed : (key, handle) ∈ targets)
      (reported : ∀ failure, outcome = .error failure → (key, failure) ∈ report.failed)
      (meets : r.Meets calm op outcome r')

theorem Answers.affects {e : Exchange} (answers : w.Answers calm e w') :
    Each (Affects calm e) w w' := by
  obtain ⟨call, answer⟩ := e
  have kept (each : Each (fun _ => Resident.Keeps) w w')
      (other : ∀ op targets, call ≠ .fanOut op targets) : Each (Affects calm ⟨call, answer⟩) w w' :=
    each.imp fun _ _ _ keeps => .passed keeps fun op targets same => absurd same (other op targets)
  cases call with
  | bind groups => exact kept answers.2.1 (by simp)
  | repartition group => exact kept answers.2.1 (by simp)
  | start options =>
    cases answer with
    | error e => exact kept answers.1.each (by simp)
    | ok given => exact kept answers.2.2.1 (by simp)
  | fanOut op targets =>
    obtain ⟨_, _, _, outcomes, count, rfl, each⟩ := answers
    refine each.imp fun handle r r' ⟨apart, met⟩ => ?_
    by_cases asked : handle ∈ targets.map (·.2)
    · obtain ⟨key, outcome, mem⟩ := exists_outcome count asked
      refine .asked rfl (List.of_mem_zip mem).1 ?_ (met key outcome mem)
      intro failure failed
      rw [failed] at mem
      exact mem_failed mem
    · refine .passed (apart asked) ?_
      intro op' targets' same
      cases same
      exact asked

theorem Affects.key {e : Exchange} {handle : Handle} {r r' : Resident}
    (affects : Affects calm e handle r r') : r'.self.key = r.self.key := by
  cases affects with
  | passed keeps apart => exact keeps.key
  | asked same listed reported meets => exact meets.misses.key

theorem Affects.stopped {e : Exchange} {handle : Handle} {r r' : Resident}
    (affects : Affects calm e handle r r') (stopped : r.self.state = .stopped) :
    r'.self.state = .stopped := by
  cases affects with
  | passed keeps apart => exact keeps.stopped stopped
  | asked same listed reported meets => exact meets.misses.stopped stopped

theorem AnswersAll.each {R : Handle → Resident → Resident → Prop} {log : List Exchange}
    (keeps : ∀ handle r r', r.Keeps r' → R handle r r')
    (affects : ∀ e ∈ log, ∀ handle r r', Affects calm e handle r r' → R handle r r')
    (trans : ∀ handle r r' r'', R handle r r' → R handle r' r'' → R handle r r'')
    (answers : w.AnswersAll calm log w') : Each R w w' := by
  induction log generalizing w with
  | nil => exact answers.each.imp fun handle r r' => keeps handle r r'
  | cons e rest ih =>
    obtain ⟨v, first, others⟩ := answers
    obtain ⟨here, later⟩ := List.forall_mem_cons.mp affects
    exact (first.affects.imp here).comp (ih later others) trans

theorem AnswersAll.key {log : List Exchange} (answers : w.AnswersAll calm log w') :
    Each (fun _ r r' => r'.self.key = r.self.key) w w' :=
  answers.each (fun _ _ _ keeps => keeps.key) (fun _ _ _ _ _ affects => affects.key)
    fun _ _ _ _ first second => second.trans first

theorem AnswersAll.stopped {log : List Exchange} (answers : w.AnswersAll calm log w') :
    Each (fun _ r r' => r.self.state = .stopped → r'.self.state = .stopped) w w' :=
  answers.each (fun _ _ _ keeps => keeps.stopped) (fun _ _ _ _ _ affects => affects.stopped)
    fun _ _ _ _ first second => second ∘ first

end
end World
end FlowRuntime.Rehearsal
