import FlowRuntime.Rehearsal.Performance

/-!
Steps without what is done about listeners. Asking a listener what it has heard, adding one and
having the store refuse writes are muted: they become an aside that does nothing. A mild step
neither stops the host nor waits for listeners, muted or not. Muted parts have the findings of the parts that
they were made of, but for what was heard.
-/
namespace FlowRuntime.Rehearsal

mutual

def Finding.muted : Finding → Finding
  | .heard _ => .done
  | .together findings => .together (Finding.mutedAll findings)
  | finding => finding

def Finding.mutedAll : List (Finding × Nat) → List (Finding × Nat)
  | [] => []
  | (finding, ms) :: rest => (finding.muted, ms) :: Finding.mutedAll rest

end

def Finding.IsPlain : Finding → Prop
  | .heard _ => False
  | .together _ => False
  | _ => True

theorem Finding.muted_of_plain {finding : Finding} (plain : finding.IsPlain) :
    finding.muted = finding := by
  cases finding with
  | heard | together => exact plain.elim
  | _ => simp [Finding.muted]

theorem Finding.muted_eq_outcome {finding : Finding} {o : Outcome} :
    finding.muted = .outcome o ↔ finding = .outcome o := by
  cases finding <;> simp [Finding.muted]

def Aside.muted : Aside → Aside
  | .refuseWrites _ | .listen _ _ _ | .record | .heard _ => .refuseWrites 0
  | a => a

/-- Whether an aside neither shuts the host down nor waits for listeners. -/
def Aside.IsMild : Aside → Prop
  | .shutDown | .join => False
  | _ => True

def Request.muted : Request → Request
  | .aside a => .aside a.muted
  | request => request

def Request.IsMild : Request → Prop
  | .aside a => a.IsMild
  | .turn _ => True

mutual

def Step.muted : Step → Step
  | .one request => .one request.muted
  | .together items => .together (Step.mutedAll items)

def Step.mutedAll : List (Nat × Step) → List (Nat × Step)
  | [] => []
  | (after, step) :: rest => (after, step.muted) :: Step.mutedAll rest

end

mutual

def Step.IsMild : Step → Prop
  | .one request => request.IsMild
  | .together items => Step.AreMild items

def Step.AreMild : List (Nat × Step) → Prop
  | [] => True
  | (_, step) :: rest => step.IsMild ∧ Step.AreMild rest

end

theorem Aside.isMild_muted (a : Aside) : a.muted.IsMild ↔ a.IsMild := by
  cases a <;> exact Iff.rfl

theorem Request.isMild_muted (request : Request) : request.muted.IsMild ↔ request.IsMild := by
  cases request with
  | turn request => exact Iff.rfl
  | aside a => exact a.isMild_muted

mutual

theorem Step.isMild_muted (step : Step) : step.muted.IsMild ↔ step.IsMild := by
  cases step with
  | one request => rw [Step.muted, Step.IsMild, Step.IsMild, request.isMild_muted]
  | together items => rw [Step.muted, Step.IsMild, Step.IsMild, Step.areMild_muted]

theorem Step.areMild_muted (items : List (Nat × Step)) :
    Step.AreMild (Step.mutedAll items) ↔ Step.AreMild items := by
  cases items with
  | nil => rw [Step.mutedAll]
  | cons item rest =>
    obtain ⟨after, step⟩ := item
    rw [Step.mutedAll, Step.AreMild, Step.AreMild, step.isMild_muted, Step.areMild_muted]

end

def Act.muted : Act → Act
  | .ahead after request => .ahead after request.muted
  | .waiting due request => .waiting due request.muted
  | .ended time finding => .ended time finding.muted
  | act => act

namespace Part

mutual

def muted : Part → Part
  | .solo place act => .solo place act.muted
  | .ensemble place size entrance members => .ensemble place size entrance (mutedAll members)

def mutedAll : List Part → List Part
  | [] => []
  | p :: rest => p.muted :: mutedAll rest

end

theorem mutedAll_eq_map (members : List Part) : mutedAll members = members.map muted := by
  induction members with
  | nil => rw [mutedAll, List.map_nil]
  | cons p rest ih => rw [mutedAll, List.map_cons, ih]

theorem mutedAll_append (members more : List Part) :
    mutedAll (members ++ more) = mutedAll members ++ mutedAll more := by
  simp only [mutedAll_eq_map, List.map_append]

theorem length_mutedAll (members : List Part) : (mutedAll members).length = members.length := by
  rw [mutedAll_eq_map, List.length_map]

mutual

theorem depth_muted (p : Part) : p.muted.depth = p.depth := by
  cases p with
  | solo place act => rw [muted, depth, depth]
  | ensemble place size entrance members => rw [muted, depth, depth, depthOf_mutedAll]

theorem depthOf_mutedAll (members : List Part) : depthOf (mutedAll members) = depthOf members := by
  cases members with
  | nil => rw [mutedAll]
  | cons p rest => rw [mutedAll, depthOf, depthOf, depth_muted, depthOf_mutedAll]

end

theorem mutedAll_findings (found : List (Nat × Finding)) (time : Nat) :
    Finding.mutedAll (found.map fun f => (f.2, f.1 - time)) =
      (found.map fun f => (f.1, f.2.muted)).map fun f => (f.2, f.1 - time) := by
  induction found with
  | nil => rfl
  | cons head rest ih =>
    simp only [List.map_cons, Finding.mutedAll, ih]

theorem latest_muted (found : List (Nat × Finding)) (time : Nat) :
    (found.map fun f => (f.1, f.2.muted)).foldl (fun latest f => max latest f.1) time =
      found.foldl (fun latest f => max latest f.1) time := by
  rw [List.foldl_map]

mutual

theorem result?_muted (p : Part) :
    p.muted.result? = p.result?.map fun found => (found.1, found.2.muted) := by
  cases p with
  | solo place act =>
    rw [muted]
    cases act with
    | ended time finding => rw [Act.muted, result?, result?, Option.map_some]
    | ahead | waiting | inLine | calling | resting | joining => simp [Act.muted, result?]
  | ensemble place size entrance members =>
    rw [muted]
    cases entrance with
    | ahead | waiting => simp [result?]
    | begun time =>
      rw [result?, result?, results?_mutedAll, Option.map_map, Option.map_map]
      congr 1
      funext found
      simp only [Function.comp, latest_muted, Finding.muted, mutedAll_findings]

theorem results?_mutedAll (members : List Part) :
    results? (mutedAll members) =
      (results? members).map (·.map fun found => (found.1, found.2.muted)) := by
  cases members with
  | nil => simp [mutedAll, results?]
  | cons p rest =>
    rw [mutedAll, results?, results?, result?_muted, results?_mutedAll]
    cases p.result? with
    | none => rfl
    | some found =>
      cases results? rest with
      | none => rfl
      | some others => rfl

end

mutual

theorem ofStep_muted (place after : Nat) (step : Step) :
    ofStep place after step.muted = (ofStep place after step).muted := by
  cases step with
  | one request => rw [Step.muted, ofStep, ofStep, muted, Act.muted]
  | together items => rw [Step.muted, ofStep, ofStep, ofItems_muted, muted]

theorem ofItems_muted (place : Nat) (items : List (Nat × Step)) :
    ofItems place (Step.mutedAll items) =
      (mutedAll (ofItems place items).1, (ofItems place items).2) := by
  cases items with
  | nil => rw [Step.mutedAll, ofItems, mutedAll]
  | cons item rest =>
    obtain ⟨after, step⟩ := item
    rw [Step.mutedAll, ofItems, ofItems, ofStep_muted]
    cases ofStep place after step with
    | solo p act => simp only [muted, mutedAll, ofItems_muted]
    | ensemble p size entrance members => simp only [muted, mutedAll, ofItems_muted]

end

end Part
end FlowRuntime.Rehearsal
