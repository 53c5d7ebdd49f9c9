import FlowRuntime.Proofs.Rehearsal.Residents
import FlowRuntime.Proofs.Run.RescaleOutcome

/-!
Fan-outs that nobody misses. Whoever was asked and is not reported has done as it was asked, so
what a clean course has made of an instance is known from the course alone, whatever the
instance was before. When all is calm, an instance that goes on misses nothing, and
a course is clean from its beginning to its end.
-/
namespace FlowRuntime

namespace Rehearsal.World
variable {calm : Prop} {w w' : World} {op : InstanceOp} {targets : List (StageKey × Handle)}
  {report : Report StageKey}

theorem Answers.heeded (answers : w.Answers calm ⟨.fanOut op targets, report⟩ w')
    (clean : report.failed = []) :
    Each (fun handle r r' => (handle ∉ targets.map (·.2) → r.Keeps r') ∧
      (handle ∈ targets.map (·.2) → r.Heeds op (.ok ()) r')) w w' := by
  obtain ⟨_, _, _, outcomes, count, rfl, each⟩ := answers
  refine each.imp fun handle r r' ⟨apart, met⟩ => ⟨apart, fun asked => ?_⟩
  obtain ⟨key, outcome, mem⟩ := exists_outcome count asked
  cases outcome with
  | ok _ => exact (met key _ mem).heeds
  | error e =>
    have failed := mem_failed mem
    rw [clean] at failed
    cases failed

theorem Answers.clean (answers : w.Answers calm ⟨.fanOut op targets, report⟩ w') (still : calm)
    (able : ∀ t ∈ targets, ∀ r, w.residents[t.2]? = some r → r.ahead.Able op) :
    report.failed = [] := by
  obtain ⟨knows, _, _, outcomes, count, rfl, each⟩ := answers
  rw [FanOut.report, List.filterMap_eq_nil_iff]
  intro o mem
  rw [List.zip_map_left] at mem
  obtain ⟨⟨⟨key, handle⟩, outcome⟩, listed, rfl⟩ := List.mem_map.mp mem
  obtain ⟨r, found, _⟩ := knows.there _ (List.of_mem_zip listed).1
  obtain ⟨r', _, _, met⟩ := each handle r found
  rcases met key outcome listed with heeds | ⟨restless, _⟩
  · rw [heeds.responds.of_able (able _ (List.of_mem_zip listed).1 r found)]
    rfl
  · exact absurd still restless

end Rehearsal.World

open Rehearsal

section
variable {calm : Prop} {c : RunContext} {w w' : World} {log : List Exchange} {x : Outcome}
  {stage : String} {targets : List (StageKey × Handle)} {count : Nat}

theorem Regrouped.knows (around : Regrouped c stage targets count log x)
    (answers : w.AnswersAll calm log w') : w.Knows targets := by
  cases around with
  | refused paused e =>
    obtain ⟨v, answered, _⟩ := answers
    exact answered.1
  | done paused told resumed =>
    obtain ⟨v, answered, _⟩ := answers
    exact answered.1

theorem Regrouped.settled (around : Regrouped c stage targets count log (.ok ()))
    (answers : w.AnswersAll calm log w') (clean : missed log = 0) :
    World.Each (fun handle r r' => (handle ∉ targets.map (·.2) → r.Keeps r') ∧
      (handle ∈ targets.map (·.2) → r'.mail = [] ∧ r'.self = ⟨r.self.key, .alive, count⟩)) w w' := by
  cases around with
  | done paused told resumed =>
    simp only [missed, Exchange.missed, Nat.add_eq_zero_iff, List.length_eq_zero_iff] at clean
    obtain ⟨clean₁, _, clean₃, clean₄, _⟩ := clean
    obtain ⟨w₁, first, w₂, ⟨_, second, _⟩, w₃, third, w₄, fourth, last⟩ := answers
    intro handle r found
    obtain ⟨r₁, found₁, apart₁, asked₁⟩ := first.heeded clean₁ handle r found
    obtain ⟨r₂, found₂, kept₂⟩ := second handle r₁ found₁
    obtain ⟨r₃, found₃, apart₃, asked₃⟩ := third.heeded clean₃ handle r₂ found₂
    obtain ⟨r₄, found₄, apart₄, asked₄⟩ := fourth.heeded clean₄ handle r₃ found₃
    obtain ⟨r₅, found₅, kept₅⟩ := World.Keeps.each last handle r₄ found₄
    refine ⟨r₅, found₅, fun apart => ?_, fun asked => ?_⟩
    · exact (((apart₁ apart).trans kept₂).trans ((apart₃ apart).trans (apart₄ apart))).trans kept₅
    · have suspended := (asked₁ asked).keeps kept₂
      have told := asked₃ asked
      have resumed := (asked₄ asked).keeps kept₅
      have key : r₅.self.key = r.self.key := by
        rw [resumed.misses.key, told.misses.key, suspended.misses.key]
      have counted : r₅.self.told = count := by
        rw [resumed.responds.of_resume.2, Resident.ahead_of_read told.read]
        exact told.responds.of_command.1
      exact ⟨resumed.read, LocalInstance.eq_mk key resumed.responds.of_resume.1 counted⟩

theorem Regrouped.smooth (around : Regrouped c stage targets count log x)
    (answers : w.AnswersAll calm log w') (still : calm) (some_instances : count ≠ 0)
    (able : ∀ t ∈ targets, ∀ r, w.residents[t.2]? = some r → r.mail = [] ∧ r.self.state = .alive ∧
      r.self.key.instanceId < count) : x = .ok () ∧ missed log = 0 := by
  cases around with
  | refused paused e =>
    obtain ⟨w₁, _, w₂, ⟨_, _, assigns⟩, _⟩ := answers
    rcases assigns with granted | ⟨restless, _⟩
    · simp [Partitioner.bind, Partitioner.assign, RunContext.consumerGroup, some_instances] at granted
    · exact absurd still restless
  | done paused told resumed =>
    obtain ⟨w₁, first, w₂, ⟨_, second, _⟩, w₃, third, w₄, fourth, last⟩ := answers
    have clean₁ : paused.failed = [] := by
      refine first.clean still fun t mem r found => ?_
      obtain ⟨read, alive, _⟩ := able t mem r found
      rw [Resident.ahead_of_read read]
      exact ⟨.inl alive, by simp⟩
    -- From here on, every target is suspended and has read its mail.
    have paused₂ : ∀ t ∈ targets, ∀ r, w₂.residents[t.2]? = some r → r.mail = [] ∧
        r.self.state = .suspended ∧ r.self.key.instanceId < count := by
      intro t mem r found
      obtain ⟨r₀, found₀, _⟩ := first.1.there t mem
      obtain ⟨r₁, found₁, _, asked⟩ := first.heeded clean₁ t.2 r₀ found₀
      obtain ⟨r₂, found₂, kept⟩ := second t.2 r₁ found₁
      rw [found] at found₂
      cases found₂
      have suspended := (asked (List.mem_map_of_mem mem)).keeps kept
      refine ⟨suspended.read, suspended.responds.of_suspend.1, ?_⟩
      rw [suspended.misses.key]
      exact (able t mem r₀ found₀).2.2
    have clean₃ : told.failed = [] := by
      refine third.clean still fun t mem r found => ?_
      obtain ⟨read, suspended, owns⟩ := paused₂ t mem r found
      rw [Resident.ahead_of_read read]
      refine ⟨.inr suspended, fun n same => ?_⟩
      cases same
      exact owns
    have clean₄ : resumed.failed = [] := by
      refine fourth.clean still fun t mem r found => ?_
      obtain ⟨r₂, found₂, _⟩ := third.1.there t mem
      obtain ⟨r₃, found₃, _, asked⟩ := third.heeded clean₃ t.2 r₂ found₂
      rw [found] at found₃
      cases found₃
      have heeds := asked (List.mem_map_of_mem mem)
      obtain ⟨read, suspended, _⟩ := paused₂ t mem r₂ found₂
      rw [Resident.ahead_of_read heeds.read]
      refine ⟨.inr ?_, by simp⟩
      rw [heeds.responds.of_command.2, Resident.ahead_of_read read, suspended]
    simp [missed, Exchange.missed, clean₁, clean₃, clean₄]

end

/-! ### Starts -/

section
variable {calm : Prop} {c : RunContext} {w w' : World} {openings : List Opening}
  {log : List Exchange} {begun : List (StageKey × Handle)} {x : Outcome}

theorem start_options (o : Opening) (c : RunContext) (within : o.id < o.total) :
    LocalInstance.start (o.options c) = .ok ⟨o.key, .alive, o.total⟩ :=
  if_pos within

theorem Started.settled (started : Started c openings log begun x)
    (answers : w.AnswersAll calm log w') :
    World.Each (fun _ => Resident.Keeps) w w' ∧
      ∀ key handle, (key, handle) ∈ begun → ∃ o ∈ openings, o.key = key ∧
        ∃ r, w'.residents[handle]? = some r ∧ r.mail = [] ∧ r.self = ⟨key, .alive, o.total⟩ := by
  induction started generalizing w with
  | all => exact ⟨World.Keeps.each answers, by simp⟩
  | failed o rest e =>
    obtain ⟨v, ⟨keeps, _⟩, last⟩ := answers
    exact ⟨keeps.each.trans (World.Keeps.each last), by simp⟩
  | @next o given rest log begun x later ih =>
    obtain ⟨v, ⟨_, _, kept, _, r, found, made, read⟩, others⟩ := answers
    obtain ⟨onward, rest⟩ := ih others
    refine ⟨kept.trans onward, fun key handle mem => ?_⟩
    rcases List.mem_cons.mp mem with here | after
    · cases here
      obtain ⟨r', found', keeps⟩ := onward given r found
      refine ⟨o, List.mem_cons_self, rfl, r', found', keeps.read read, ?_⟩
      rw [keeps.self read, LocalInstance.eq_of_start made]
      rfl
    · obtain ⟨o', within, same⟩ := rest key handle after
      exact ⟨o', List.mem_cons_of_mem _ within, same⟩

theorem Started.smooth (started : Started c openings log begun x) (answers : w.AnswersAll calm log w')
    (still : calm) (within : ∀ o ∈ openings, o.id < o.total) : x = .ok () := by
  induction started generalizing w with
  | all => rfl
  | failed o rest e =>
    obtain ⟨v, ⟨_, refused | restless⟩, _⟩ := answers
    · rw [start_options o c (within o List.mem_cons_self)] at refused
      cases refused
    · exact absurd still restless
  | next o given later ih =>
    obtain ⟨v, _, others⟩ := answers
    exact ih others fun o' mem => within o' (List.mem_cons_of_mem _ mem)

end
end FlowRuntime
