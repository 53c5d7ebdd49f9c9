import FlowRuntime.Proofs.Rehearsal.Concert

/-!
Ensembles. A part is made of its solos, each in its own place, and seeing to it is seeing to
some of them, in one order or another. We verify that whatever step is played, its solos play
in concert, from the beginning of the step to where it is over or is left, and that what is
found is what the solos have found.
-/
namespace FlowRuntime.Rehearsal

namespace Part

mutual

def solos : Part → List (Nat × Act)
  | .solo place act => [(place, act)]
  | .ensemble _ _ _ members => solosOf members

def solosOf : List Part → List (Nat × Act)
  | [] => []
  | p :: rest => p.solos ++ solosOf rest

end

def places (p : Part) : List Nat := p.solos.map (·.1)

def placesOf (members : List Part) : List Nat := (solosOf members).map (·.1)

def cast (p : Part) (place : Nat) : Act := (p.solos.lookup place).getD (.ended 0 .done)

theorem solosOf_append (members more : List Part) :
    solosOf (members ++ more) = solosOf members ++ solosOf more := by
  induction members with
  | nil => rfl
  | cons p rest ih => simp [solosOf, ih]

end Part

open FlowRuntime.Rehearsal.Part

/-- The solos among these have the acts that are in their places. -/
def Embodied (solos : List (Nat × Act)) (acts : Nat → Act) : Prop := ∀ e ∈ solos, acts e.1 = e.2

section
variable {s₀ s : Scene} {acts₀ acts acts' : Nat → Act} {asked : List (Nat × RunRequest)}

theorem Embodied.append {solos more : List (Nat × Act)} (first : Embodied solos acts)
    (second : Embodied more acts) : Embodied (solos ++ more) acts := by
  intro e mem
  rcases List.mem_append.mp mem with before | after
  · exact first e before
  · exact second e after

theorem Embodied.frame {solos : List (Nat × Act)} (embodied : Embodied solos acts)
    (same : ∀ place ∈ solos.map (·.1), acts' place = acts place) : Embodied solos acts' := by
  intro e mem
  rw [same e.1 (List.mem_map_of_mem mem)]
  exact embodied e mem

theorem embodied_of_nodup {solos : List (Nat × Act)} (nodup : (solos.map (·.1)).Nodup) (act : Act) :
    Embodied solos fun place => (solos.lookup place).getD act := by
  induction solos with
  | nil => simp [Embodied]
  | cons head rest ih =>
    obtain ⟨place, here⟩ := head
    rw [List.map_cons, List.nodup_cons] at nodup
    intro e mem
    rcases List.mem_cons.mp mem with rfl | later
    · simp [List.lookup_cons_self]
    · have apart : (e.1 == place) = false := by
        rw [beq_eq_false_iff_ne]
        rintro rfl
        exact nodup.1 (List.mem_map.mpr ⟨e, later, rfl⟩)
      simpa [List.lookup_cons, apart] using ih nodup.2 e later

/-! ### Seeing to parts -/

/-- A concert goes on from where these solos have the acts in their places, to where those do; in
other places nothing has changed. -/
def GoesOn (s₀ : Scene) (acts₀ acts : Nat → Act) (solos : List (Nat × Act)) (s' : Scene) : Prop :=
  ∃ asked acts', Concert s₀ acts₀ asked s' acts' ∧ Embodied solos acts' ∧
    ∀ place, place ∉ solos.map (·.1) → acts' place = acts place

/-- Seen to like this, a part keeps its places, and a concert goes on. -/
def Faithful (s₀ : Scene) (acts₀ : Nat → Act) (see : Part → Scene → Part × Scene) : Prop :=
  ∀ p s asked acts, Concert s₀ acts₀ asked s acts → Embodied p.solos acts → p.places.Nodup →
    (see p s).1.places = p.places ∧ GoesOn s₀ acts₀ acts (see p s).1.solos (see p s).2

def FaithfulAll (s₀ : Scene) (acts₀ : Nat → Act)
    (see : List Part → Scene → List Part × Scene) : Prop :=
  ∀ members s asked acts, Concert s₀ acts₀ asked s acts → Embodied (solosOf members) acts →
    (placesOf members).Nodup → placesOf (see members s).1 = placesOf members ∧
      GoesOn s₀ acts₀ acts (solosOf (see members s).1) (see members s).2

theorem GoesOn.trans {solos solos' : List (Nat × Act)} {s' s'' : Scene}
    (first : GoesOn s₀ acts₀ acts solos s')
    (second : ∀ asked acts', Concert s₀ acts₀ asked s' acts' → Embodied solos acts' →
      solos'.map (·.1) = solos.map (·.1) ∧ GoesOn s₀ acts₀ acts' solos' s'') :
    solos'.map (·.1) = solos.map (·.1) ∧ GoesOn s₀ acts₀ acts solos' s'' := by
  obtain ⟨asked₁, acts₁, concert₁, here, frame⟩ := first
  obtain ⟨placed, asked₂, acts₂, concert₂, there, frame'⟩ := second asked₁ acts₁ concert₁ here
  refine ⟨placed, asked₂, acts₂, concert₂, there, ?_⟩
  intro place outside
  rw [frame' place outside]
  apply frame
  rwa [placed] at outside

theorem faithfulAll_none : FaithfulAll s₀ acts₀ fun members s => (members, s) := by
  intro members s asked acts concert embodied nodup
  exact ⟨rfl, asked, acts, concert, embodied, fun _ _ => rfl⟩

theorem FaithfulAll.trans {see see' : List Part → Scene → List Part × Scene}
    (first : FaithfulAll s₀ acts₀ see) (second : FaithfulAll s₀ acts₀ see') :
    FaithfulAll s₀ acts₀ fun members s => see' (see members s).1 (see members s).2 := by
  intro members s asked acts concert embodied nodup
  obtain ⟨placed, onward⟩ := first members s asked acts concert embodied nodup
  obtain ⟨placed', onward'⟩ := onward.trans fun asked₁ acts₁ concert₁ here =>
    second _ _ asked₁ acts₁ concert₁ here (placed ▸ nodup)
  exact ⟨placed'.trans placed, onward'⟩

theorem FaithfulAll.ite {see see' : List Part → Scene → List Part × Scene} {c : List Part → Prop}
    [DecidablePred c] (first : FaithfulAll s₀ acts₀ see) (second : FaithfulAll s₀ acts₀ see') :
    FaithfulAll s₀ acts₀ fun members s => if c members then see members s else see' members s := by
  intro members s asked acts concert embodied nodup
  dsimp only
  split
  · exact first members s asked acts concert embodied nodup
  · exact second members s asked acts concert embodied nodup

variable {see : Part → Scene → Part × Scene}

theorem faithful_seeToEach (faithful : Faithful s₀ acts₀ see) :
    FaithfulAll s₀ acts₀ (seeToEach see) := by
  intro members s asked acts concert embodied nodup
  induction members generalizing s acts asked with
  | nil => exact ⟨rfl, asked, acts, concert, embodied, fun _ _ => rfl⟩
  | cons p rest ih =>
    simp only [placesOf, solosOf, List.map_append, List.nodup_append] at nodup embodied
    obtain ⟨placed, asked₁, acts₁, concert₁, here, frame⟩ :=
      faithful p s asked acts concert (fun e mem => embodied e (List.mem_append_left _ mem)) nodup.1
    have apart : ∀ place ∈ (solosOf rest).map (·.1), acts₁ place = acts place := by
      intro place mem
      apply frame
      change place ∉ (see p s).1.places
      rw [placed]
      intro among
      exact nodup.2.2 place among place mem rfl
    have others : Embodied (solosOf rest) acts :=
      fun e mem => embodied e (List.mem_append_right _ mem)
    obtain ⟨same, asked₂, acts₂, concert₂, there, frame₂⟩ :=
      ih _ _ _ concert₁ (others.frame apart) nodup.2.1
    simp only [seeToEach, placesOf, solosOf, List.map_append]
    refine ⟨congrArg₂ (· ++ ·) placed same, asked₂, acts₂, concert₂, ?_, ?_⟩
    · refine Embodied.append (here.frame ?_) there
      intro place mem
      apply frame₂
      change place ∉ placesOf _
      rw [same]
      intro among
      change place ∈ (see p s).1.places at mem
      rw [placed] at mem
      exact nodup.2.2 place mem place among rfl
    · intro place outside
      simp only [List.map_append, List.mem_append, not_or] at outside
      rw [frame₂ place outside.2, frame place outside.1]

theorem Faithful.among (faithful : Faithful s₀ acts₀ see) (before after : List Part) (p : Part)
    (concert : Concert s₀ acts₀ asked s acts)
    (embodied : Embodied (solosOf (before ++ p :: after)) acts)
    (nodup : (placesOf (before ++ p :: after)).Nodup) :
    placesOf (before ++ (see p s).1 :: after) = placesOf (before ++ p :: after) ∧
      GoesOn s₀ acts₀ acts (solosOf (before ++ (see p s).1 :: after)) (see p s).2 := by
  simp only [placesOf, solosOf_append, solosOf, List.map_append] at embodied nodup ⊢
  have apart := List.nodup_append.mp nodup
  have apart' := List.nodup_append.mp apart.2.1
  have within : Embodied p.solos acts :=
    fun e mem => embodied e (List.mem_append_right _ (List.mem_append_left _ mem))
  obtain ⟨placed, asked₁, acts₁, concert₁, here, frame⟩ :=
    faithful p s asked acts concert within apart'.1
  have kept {place : Nat} (outside : place ∉ p.places) : acts₁ place = acts place := by
    apply frame
    change place ∉ (see p s).1.places
    rwa [placed]
  refine ⟨congrArg (_ ++ ·) (congrArg (· ++ _) placed), asked₁, acts₁, concert₁, ?_, ?_⟩
  · refine Embodied.append ?_ (Embodied.append here ?_)
    · refine Embodied.frame (fun e mem => embodied e (List.mem_append_left _ mem)) ?_
      intro place mem
      apply kept
      intro among
      exact apart.2.2 place mem place (List.mem_append_left _ among) rfl
    · refine Embodied.frame (fun e mem => embodied e
        (List.mem_append_right _ (List.mem_append_right _ mem))) ?_
      intro place mem
      apply kept
      intro among
      exact apart'.2.2 place among place mem rfl
  · intro place outside
    simp only [List.map_append, List.mem_append, not_or] at outside
    exact frame place outside.2.1

theorem faithful_seeToStirred (faithful : Faithful s₀ acts₀ see) (fuel : Nat) :
    FaithfulAll s₀ acts₀ (seeToStirred see fuel) := by
  intro members s asked acts concert embodied nodup
  induction fuel generalizing s acts asked members with
  | zero => exact ⟨rfl, asked, acts, concert, embodied, fun _ _ => rfl⟩
  | succ fuel ih =>
    unfold seeToStirred
    split
    · exact ⟨rfl, asked, acts, concert, embodied, fun _ _ => rfl⟩
    · rename_i i found
      split
      · exact ⟨rfl, asked, acts, concert, embodied, fun _ _ => rfl⟩
      · rename_i p here
        obtain ⟨within, rfl⟩ := List.getElem?_eq_some_iff.mp here
        have split : members.take i ++ members[i] :: members.drop (i + 1) = members := by
          rw [← List.drop_eq_getElem_cons within, List.take_append_drop]
        rw [← split] at embodied nodup
        obtain ⟨placed, onward⟩ := faithful.among _ _ members[i] concert embodied nodup
        obtain ⟨same, onward'⟩ := onward.trans fun asked₁ acts₁ concert₁ now =>
          ih _ _ asked₁ acts₁ concert₁ now (placed ▸ nodup)
        dsimp only
        rw [List.set_eq_take_append_cons_drop, if_pos within]
        exact ⟨(same.trans placed).trans (congrArg placesOf split), onward'⟩

theorem faithful_members (faithful : Faithful s₀ acts₀ see) (wasBegun : Bool) (fuel : Nat) :
    FaithfulAll s₀ acts₀ fun members s =>
      let (members, s) :=
        if wasBegun && smallEnsemble < members.length then (members, s)
        else seeToEach see members s
      if smallEnsemble < members.length then seeToStirred see fuel members s else (members, s) := by
  have first : FaithfulAll s₀ acts₀ fun members s =>
      if wasBegun && smallEnsemble < members.length then (members, s)
      else seeToEach see members s := faithfulAll_none.ite (faithful_seeToEach faithful)
  have second : FaithfulAll s₀ acts₀ fun members s =>
      if smallEnsemble < members.length then seeToStirred see fuel members s else (members, s) :=
    (faithful_seeToStirred faithful fuel).ite faithfulAll_none
  exact first.trans second

theorem faithful_seeTo (s₀ : Scene) (acts₀ : Nat → Act) (depth : Nat) :
    Faithful s₀ acts₀ (Part.seeTo depth) := by
  have solo (depth place : Nat) (act : Act) (s : Scene) (asked : List (Nat × RunRequest))
      (acts : Nat → Act) (concert : Concert s₀ acts₀ asked s acts)
      (embodied : Embodied (Part.solo place act).solos acts) :
      ((Part.solo place act).seeTo depth s).1.places = (Part.solo place act).places ∧
        GoesOn s₀ acts₀ acts ((Part.solo place act).seeTo depth s).1.solos
          ((Part.solo place act).seeTo depth s).2 := by
    have here : acts place = act := embodied (place, act) (by simp [Part.solos])
    subst here
    have seen := concert.seen place
    refine ⟨by simp [places, Part.solos, Part.seeTo], ?_⟩
    simp only [Part.seeTo, Part.solos]
    refine ⟨_, _, seen, ?_, ?_⟩
    · intro e mem
      rw [List.mem_singleton.mp mem]
      exact Function.update_self ..
    · intro p outside
      exact Function.update_of_ne (by simpa using outside) ..
  induction depth with
  | zero =>
    intro p s asked acts concert embodied nodup
    cases p with
    | solo place act => exact solo 0 place act s asked acts concert embodied
    | ensemble place size entrance members =>
      exact ⟨rfl, asked, acts, concert, embodied, fun _ _ => rfl⟩
  | succ depth ih =>
    intro p s asked acts concert embodied nodup
    cases p with
    | solo place act => exact solo (depth + 1) place act s asked acts concert embodied
    | ensemble place size entrance members =>
      have entered := concert.meanwhile (.entered s place entrance)
      unfold Part.seeTo
      dsimp only
      generalize (s.unstir place).enter place entrance = now at entered
      obtain ⟨s₁, entrance₁⟩ := now
      cases entrance₁ with
      | ahead after => exact ⟨rfl, asked, acts, entered, embodied, fun _ _ => rfl⟩
      | waiting due => exact ⟨rfl, asked, acts, entered, embodied, fun _ _ => rfl⟩
      | begun time =>
        exact faithful_members ih _ (size * size) members s₁ asked acts entered embodied nodup

/-! ### Rounds -/

theorem concert_playRounds (rounds : Nat) (p : Part) (concert : Concert s₀ acts₀ asked s acts)
    (embodied : Embodied p.solos acts) (nodup : p.places.Nodup) :
    ∃ asked' acts', Concert s₀ acts₀ asked' (Scene.playRounds rounds p s).2 acts' ∧
      Embodied (Scene.playRounds rounds p s).1.solos acts' ∧
      (Scene.playRounds rounds p s).1.places = p.places := by
  induction rounds generalizing p s asked acts with
  | zero => exact ⟨asked, acts, concert, embodied, rfl⟩
  | succ rounds ih =>
    obtain ⟨placed, asked₁, acts₁, seen, here, _⟩ :=
      faithful_seeTo s₀ acts₀ p.depth p s asked acts concert embodied nodup
    unfold Scene.playRounds
    dsimp only
    generalize p.seeTo p.depth s = now at placed seen here
    obtain ⟨p₁, s₁⟩ := now
    dsimp only at placed seen here ⊢
    split
    · exact ⟨asked₁, acts₁, seen, here, placed⟩
    · have worked := seen.meanwhile (.worked s₁ Scene.turnsInRound)
      split
      · obtain ⟨asked₂, acts₂, later, there, same⟩ := ih p₁ worked here (placed ▸ nodup)
        exact ⟨asked₂, acts₂, later, there, same.trans placed⟩
      · obtain ⟨asked₂, acts₂, later, there, same⟩ :=
          ih p₁ (worked.meanwhile (.passed _ _)) here (placed ▸ nodup)
        exact ⟨asked₂, acts₂, later, there, same.trans placed⟩

end

/-! ### The parts of a step -/

namespace Part

def size : Part → Nat
  | .solo _ _ => 1
  | .ensemble _ size _ _ => size

/-- Places that ascend, from the one on and up to the other. -/
structure Ranged (places : List Nat) (first next : Nat) : Prop where
  le : first ≤ next
  ascending : places.Pairwise (· < ·)
  within : ∀ place ∈ places, first ≤ place ∧ place < next

theorem Ranged.append {places more : List Nat} {first middle next : Nat}
    (before : Ranged places first middle) (after : Ranged more middle next) :
    Ranged (places ++ more) first next where
  le := before.le.trans after.le
  ascending := by
    rw [List.pairwise_append]
    refine ⟨before.ascending, after.ascending, ?_⟩
    intro p mem q mem'
    have low := (before.within p mem).2
    have high := (after.within q mem').1
    omega
  within := by
    intro p mem
    have le := before.le
    have le' := after.le
    rcases List.mem_append.mp mem with here | there
    · have := before.within p here
      omega
    · have := after.within p there
      omega

mutual

theorem ofStep_ranged (place after : Nat) (step : Step) :
    Ranged (ofStep place after step).places place (place + (ofStep place after step).size) := by
  cases step with
  | one request =>
    rw [ofStep]
    exact ⟨by omega, by simp [places, solos], by simp [places, solos, size]⟩
  | together items =>
    have members := ofItems_ranged (place + 1) items
    rw [ofStep]
    have le := members.le
    refine ⟨by omega, members.ascending, ?_⟩
    intro p mem
    have := members.within p mem
    simp only [size]
    omega

theorem ofItems_ranged (place : Nat) (items : List (Nat × Step)) :
    Ranged (placesOf (ofItems place items).1) place (ofItems place items).2 := by
  cases items with
  | nil =>
    rw [ofItems]
    exact ⟨Nat.le_refl _, by simp [placesOf, solosOf], by simp [placesOf, solosOf]⟩
  | cons item rest =>
    obtain ⟨after, step⟩ := item
    have first := ofStep_ranged place after step
    have others := ofItems_ranged (place + (ofStep place after step).size) rest
    rw [ofItems]
    simp only [placesOf, solosOf, List.map_append]
    exact first.append others

end


mutual

theorem ofStep_ahead (place after : Nat) (step : Step) :
    ∀ e ∈ (ofStep place after step).solos, ∃ after request, e.2 = .ahead after request := by
  cases step with
  | one request =>
    rw [ofStep]
    simp [solos]
  | together items =>
    rw [ofStep]
    exact ofItems_ahead (place + 1) items

theorem ofItems_ahead (place : Nat) (items : List (Nat × Step)) :
    ∀ e ∈ solosOf (ofItems place items).1, ∃ after request, e.2 = .ahead after request := by
  cases items with
  | nil =>
    rw [ofItems]
    simp [solosOf]
  | cons item rest =>
    obtain ⟨after, step⟩ := item
    have first := ofStep_ahead place after step
    have others := ofItems_ahead (place + (ofStep place after step).size) rest
    rw [ofItems]
    intro e mem
    rcases List.mem_append.mp mem with here | there
    · exact first e here
    · exact others e there

end

theorem ofStep_nodup (place after : Nat) (step : Step) : (ofStep place after step).places.Nodup :=
  (ofStep_ranged place after step).ascending.imp Nat.ne_of_lt

theorem cast_eq_of_not_mem {p : Part} {place : Nat} (outside : place ∉ p.places) :
    p.cast place = .ended 0 .done := by
  have none : p.solos.lookup place = none := by
    rw [List.lookup_eq_none_iff]
    intro e mem
    rw [bne_iff_ne]
    rintro rfl
    exact outside (List.mem_map_of_mem mem)
  simp [cast, none]

theorem ofStep_apart (step : Step) (place : Nat) : ((ofStep 0 0 step).cast place).IsApart := by
  by_cases within : place ∈ (ofStep 0 0 step).places
  · obtain ⟨e, mem, rfl⟩ := List.mem_map.mp within
    obtain ⟨after, request, same⟩ := ofStep_ahead 0 0 step e mem
    have here : (ofStep 0 0 step).cast e.1 = e.2 := embodied_of_nodup (ofStep_nodup 0 0 step) _ e mem
    simp [here, same, Act.IsApart]
  · rw [cast_eq_of_not_mem within]
    trivial

end Part

/-! ### What is found -/

mutual

def Finding.leaves : Finding → List Finding
  | .together findings => Finding.leavesOf findings
  | finding => [finding]

def Finding.leavesOf : List (Finding × Nat) → List Finding
  | [] => []
  | (finding, _) :: rest => finding.leaves ++ Finding.leavesOf rest

end

def Act.found? : Act → Option Finding
  | .ended _ finding => some finding
  | _ => none

theorem Finding.IsSingle.leaves {finding : Finding} (single : finding.IsSingle) :
    finding.leaves = [finding] := by
  cases finding with
  | together findings => exact single.elim
  | _ => simp [Finding.leaves]

mutual

theorem Part.leaves_of_result? (p : Part) {found : Nat × Finding} (ended : p.result? = some found)
    (single : ∀ e ∈ p.solos, ∀ finding, e.2.found? = some finding → finding.IsSingle) :
    p.solos.map (·.2.found?) = found.2.leaves.map some := by
  cases p with
  | solo place act =>
    cases act with
    | ended time finding =>
      rw [result?] at ended
      cases ended
      have here : finding.IsSingle := single (place, .ended time finding) (by simp [solos]) finding rfl
      simp [solos, Act.found?, here.leaves]
    | ahead | waiting | inLine | calling | resting | joining => simp [result?] at ended
  | ensemble place size entrance members =>
    cases entrance with
    | begun time =>
      rw [result?, Option.map_eq_some_iff] at ended
      obtain ⟨findings, all, rfl⟩ := ended
      have whole := Part.leaves_of_results? members all single
      rw [solos, whole, Finding.leaves]
      congr 1
      clear all whole
      induction findings with
      | nil => simp [Finding.leavesOf]
      | cons head rest ih => simp [Finding.leavesOf, ih]
    | ahead | waiting => simp [result?] at ended

theorem Part.leaves_of_results? (members : List Part) {found : List (Nat × Finding)}
    (ended : results? members = some found)
    (single : ∀ e ∈ solosOf members, ∀ finding, e.2.found? = some finding → finding.IsSingle) :
    (solosOf members).map (·.2.found?) = (found.flatMap (·.2.leaves)).map some := by
  cases members with
  | nil =>
    rw [results?] at ended
    cases ended
    rfl
  | cons p rest =>
    rw [results?] at ended
    split at ended
    · rename_i first others here there
      cases ended
      rw [solosOf] at single ⊢
      rw [List.map_append, Part.leaves_of_result? p here fun e mem => single e (List.mem_append_left _ mem),
        Part.leaves_of_results? rest there fun e mem => single e (List.mem_append_right _ mem)]
      simp
    · cases ended

end


theorem concert_play (i : Interval) (step : Step) :
    ∃ (p : Part) (asked : List (Nat × RunRequest)) (s : Scene) (acts : Nat → Act),
      Concert i.resume (Part.ofStep 0 0 step).cast asked s acts ∧
      Embodied p.solos acts ∧ p.places = (Part.ofStep 0 0 step).places ∧
      i.play step = i.close (p.result?.map (·.2)) s := by
  have nodup := Part.ofStep_nodup 0 0 step
  obtain ⟨asked, acts, concert, embodied, placed⟩ := concert_playRounds Scene.roundsAhead
    (Part.ofStep 0 0 step) .opened (embodied_of_nodup nodup (.ended 0 .done)) nodup
  exact ⟨_, asked, _, acts, concert, embodied, placed, rfl⟩

end FlowRuntime.Rehearsal
