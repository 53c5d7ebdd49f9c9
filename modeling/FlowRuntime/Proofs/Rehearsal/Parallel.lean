import FlowRuntime.Proofs.Rehearsal.Roles

/-!
Parts that are seen to in two scenes that are alike. We verify that whatever part is seen to in
both, and in whatever order those within it are, all of them do the same in both, and that
afterwards everyone present has nothing more to do now. Members of a large ensemble that are
not stirred are passed over, since they have been seen to before; and there are always enough
turns for those that are, as each of them lowers the load.
-/
namespace FlowRuntime.Rehearsal

open FlowRuntime.Rehearsal.Part

/-- Parts that can be seen to in two scenes: whoever is stirred, in line or cued is present. -/
structure Onset (members : List Part) (s n : Scene) (acts : Nat → Act) (seen : Nat → Prop) :
    Prop where
  duet : Duet s n acts seen
  embodied : Embodied (rolesOf members) acts
  sound : AreSound members
  numbered : AreNumbered members
  once : (seatsOf members).Nodup
  aware : ∀ q ∈ seatsOf members, s.Involves q → q ∈ presentOf members

/-- What has become of parts and of two scenes: nothing has changed but at the places of these parts,
and the load is no more than it was. -/
structure Looks (members : List Part) (acts : Nat → Act) (seen : Nat → Prop) (s : Scene)
    (members' : List Part) (acts' : Nat → Act) (seen' : Nat → Prop) (s' n' : Scene) : Prop where
  outline : outlineOf members' = outlineOf members
  embodied : Embodied (rolesOf members') acts'
  sound : AreSound members'
  present : presentOf members ⊆ presentOf members'
  duet : Duet s' n' acts' seen'
  now : s'.now = s.now
  joiners : s'.joiners = s.joiners
  calls : s.world.calls <:+ s'.world.calls
  frame : ∀ q ∉ seatsOf members, acts' q = acts q
  kept : ∀ q, seen q → seen' q
  involved : ∀ q, s'.Involves q → s.Involves q ∨ q ∈ presentOf members'
  stirred : ∀ q ∈ s.stirred, q ∉ seatsOf members → q ∈ s'.stirred
  load : ∀ places : Finset Nat, (∀ q ∈ seatsOf members, q ∈ places) →
    s'.load acts' places ≤ s.load acts places

/-- Parts that are seen to in two scenes do the same in both, and everyone present has been seen to;
if one at these places was stirred, the load is less than it was. -/
def Reflected (members : List Part) (acts : Nat → Act) (seen : Nat → Prop) (s : Scene)
    (stirring : List Nat) (now now' : List Part × Scene) : Prop :=
  ∃ acts' seen', now'.1 = mutedAll now.1 ∧
    Looks members acts seen s now.1 acts' seen' now.2 now'.2 ∧
    (∀ q ∈ presentOf now.1, seen' q) ∧
    ((∃ q ∈ stirring, q ∈ s.stirred) → ∀ places : Finset Nat,
      (∀ q ∈ seatsOf members, q ∈ places) → now.2.load acts' places < s.load acts places)

section
variable {members members' members'' : List Part} {acts acts' acts'' : Nat → Act}
  {seen seen' seen'' : Nat → Prop} {s s' s'' n n' n'' : Scene} {p p' : Part}

theorem Looks.refl (onset : Onset members s n acts seen) :
    Looks members acts seen s members acts seen s n where
  outline := rfl
  embodied := onset.embodied
  sound := onset.sound
  present := List.Subset.refl _
  duet := onset.duet
  now := rfl
  joiners := rfl
  calls := List.suffix_refl _
  frame _ _ := rfl
  kept _ := id
  involved _ := .inl
  stirred _ mem _ := mem
  load _ _ := Nat.le_refl _

theorem Looks.trans (first : Looks members acts seen s members' acts' seen' s' n')
    (second : Looks members' acts' seen' s' members'' acts'' seen'' s'' n'') :
    Looks members acts seen s members'' acts'' seen'' s'' n'' := by
  have seats := seatsOf_congr first.outline
  exact {
    outline := second.outline.trans first.outline
    embodied := second.embodied
    sound := second.sound
    present := List.Subset.trans first.present second.present
    duet := second.duet
    now := second.now.trans first.now
    joiners := second.joiners.trans first.joiners
    calls := first.calls.trans second.calls
    frame := fun q outside =>
      (second.frame q (seats ▸ outside)).trans (first.frame q outside)
    kept := fun q before => second.kept q (first.kept q before)
    involved := fun q involves => by
      rcases second.involved q involves with before | here
      · exact (first.involved q before).imp_right fun mem => second.present mem
      · exact .inr here
    stirred := fun q mem outside =>
      second.stirred q (first.stirred q mem outside) (seats ▸ outside)
    load := fun places within =>
      (second.load places (seats ▸ within)).trans (first.load places within) }

theorem areNumbered_congr (same : outlineOf members' = outlineOf members) :
    AreNumbered members' ↔ AreNumbered members := by
  rw [← areNumbered_outline, same, areNumbered_outline]

theorem Onset.looks (onset : Onset members s n acts seen)
    (looks : Looks members acts seen s members' acts' seen' s' n') :
    Onset members' s' n' acts' seen' where
  duet := looks.duet
  embodied := looks.embodied
  sound := looks.sound
  numbered := (areNumbered_congr looks.outline).mpr onset.numbered
  once := seatsOf_congr looks.outline ▸ onset.once
  aware q mem involves := by
    rcases looks.involved q involves with before | here
    · exact looks.present (onset.aware q (seatsOf_congr looks.outline ▸ mem) before)
    · exact here

theorem Looks.length (looks : Looks members acts seen s members' acts' seen' s' n') :
    members'.length = members.length := by
  rw [← length_outlineOf, looks.outline, length_outlineOf]

theorem Looks.depth (looks : Looks members acts seen s members' acts' seen' s' n') :
    depthOf members' = depthOf members := by
  rw [← depthOf_outline, looks.outline, depthOf_outline]

theorem Reflected.of_subset {stirring stirring' : List Nat} {now now' : List Part × Scene}
    (reflected : Reflected members acts seen s stirring now now') (within : stirring' ⊆ stirring) :
    Reflected members acts seen s stirring' now now' := by
  obtain ⟨acts', seen', same, looks, present, less⟩ := reflected
  refine ⟨acts', seen', same, looks, present, ?_⟩
  rintro ⟨q, mem, stirred⟩
  exact less ⟨q, within mem, stirred⟩

/-! ### One among others -/

theorem Onset.among {before after : List Part} (onset : Onset (before ++ p :: after) s n acts seen) :
    Onset [p] s n acts seen ∧ ∀ q ∈ p.seats, q ∉ seatsOf before ∧ q ∉ seatsOf after := by
  obtain ⟨duet, embodied, sound, numbered, once, aware⟩ := onset
  simp only [seatsOf_append, seatsOf_cons, List.nodup_append, List.mem_append] at once aware
  have apart : ∀ q ∈ p.seats, q ∉ seatsOf before ∧ q ∉ seatsOf after := by
    intro q mem
    exact ⟨fun among => once.2.2 q among q (.inl mem) rfl, fun among => once.2.1.2.2 q mem q among rfl⟩
  refine ⟨⟨duet, ?_, ?_, ?_, ?_, ?_⟩, apart⟩
  · intro e mem
    refine embodied e ?_
    rw [rolesOf_append, rolesOf]
    rw [rolesOf_singleton] at mem
    exact List.mem_append_right _ (List.mem_append_left _ mem)
  · rw [areSound_append, AreSound] at sound
    rw [AreSound, AreSound]
    exact ⟨sound.2.1, trivial⟩
  · rw [areNumbered_append, AreNumbered] at numbered
    rw [AreNumbered, AreNumbered]
    exact ⟨numbered.2.1, trivial⟩
  · rw [seatsOf_singleton]
    exact once.2.1.1
  · intro q mem involves
    rw [seatsOf_singleton] at mem
    have here := aware q (.inr (.inl mem)) involves
    rw [presentOf_append, presentOf, List.mem_append, List.mem_append] at here
    rw [presentOf_singleton]
    rcases here with early | here | late
    · exact absurd (presentOf_subset before early) (apart q mem).1
    · exact here
    · exact absurd (presentOf_subset after late) (apart q mem).2

theorem Looks.among {before after : List Part}
    (onset : Onset (before ++ p :: after) s n acts seen)
    (looks : Looks [p] acts seen s [p'] acts' seen' s' n') :
    Looks (before ++ p :: after) acts seen s (before ++ p' :: after) acts' seen' s' n' := by
  obtain ⟨_, apart⟩ := onset.among
  have seats {q : Nat} : q ∈ seatsOf [p] ↔ q ∈ p.seats := by rw [seatsOf_singleton]
  have present {q : Nat} (m : Part) : q ∈ presentOf [m] ↔ q ∈ m.present := by rw [presentOf_singleton]
  have outside {q : Nat} (among : q ∈ seatsOf before ∨ q ∈ seatsOf after) : acts' q = acts q := by
    refine looks.frame q fun mem => ?_
    rw [seats] at mem
    rcases among with early | late
    · exact (apart q mem).1 early
    · exact (apart q mem).2 late
  have listed {q : Nat} : q ∈ seatsOf (before ++ p :: after) ↔
      q ∈ seatsOf before ∨ q ∈ p.seats ∨ q ∈ seatsOf after := by
    rw [seatsOf_append, seatsOf_cons, List.mem_append, List.mem_append]
  refine ⟨?_, ?_, ?_, ?_, looks.duet, looks.now, looks.joiners, looks.calls, ?_, looks.kept, ?_, ?_, ?_⟩
  · have same := looks.outline
    simp only [outlineOf, List.cons.injEq, and_true] at same
    rw [outlineOf_append, outlineOf_append, outlineOf, outlineOf, same]
  · intro e mem
    have embodied := onset.embodied
    simp only [rolesOf_append, rolesOf, List.mem_append] at mem embodied
    rcases mem with early | here | late
    · rw [outside (.inl (List.mem_map_of_mem early))]
      exact embodied e (by simp [early])
    · exact looks.embodied e (by simpa [rolesOf] using here)
    · rw [outside (.inr (List.mem_map_of_mem late))]
      exact embodied e (by simp [late])
  · have sound := onset.sound
    have here := looks.sound
    simp only [areSound_append, AreSound, and_true] at sound here ⊢
    exact ⟨sound.1, here, sound.2.2⟩
  · intro q mem
    simp only [presentOf_append, presentOf, List.mem_append] at mem ⊢
    rcases mem with early | here | late
    · exact .inl early
    · exact .inr (.inl ((present p').mp (looks.present ((present p).mpr here))))
    · exact .inr (.inr late)
  · intro q other
    refine looks.frame q fun mem => other ?_
    exact listed.mpr (.inr (.inl (seats.mp mem)))
  · intro q involves
    refine (looks.involved q involves).imp_right fun mem => ?_
    rw [presentOf_append, presentOf, List.mem_append, List.mem_append]
    exact .inr (.inl ((present p').mp mem))
  · intro q mem other
    exact looks.stirred q mem fun among => other (listed.mpr (.inr (.inl (seats.mp among))))
  · intro places within
    exact looks.load places fun q mem => within q (listed.mpr (.inr (.inl (seats.mp mem))))

/-! ### Orders in which parts are seen to -/

/-- Seen to like this, a part of this depth at most does the same in both scenes. -/
def Parallel (see : Part → Scene → Part × Scene) (depth : Nat) : Prop :=
  ∀ p s n acts seen, p.depth ≤ depth → Onset [p] s n acts seen →
    (∀ q ∈ p.inner, seen q ∨ q ∈ s.stirred) →
    Reflected [p] acts seen s p.present ([(see p s).1], (see p s).2) ([(see p.muted n).1], (see p.muted n).2)

variable {see : Part → Scene → Part × Scene} {depth : Nat}

theorem depth_le_of_mem (mem : p ∈ members) (low : depthOf members ≤ depth) : p.depth ≤ depth := by
  induction members with
  | nil => cases mem
  | cons head rest ih =>
    rw [depthOf] at low
    rcases List.mem_cons.mp mem with rfl | later
    · omega
    · exact ih later (by omega)

theorem muted_of_singleton {p' p'' : Part} (same : [p''] = mutedAll [p']) : p'' = p'.muted := by
  rw [mutedAll, mutedAll] at same
  exact (List.cons.inj same).1

theorem Parallel.among {before after : List Part} (parallel : Parallel see depth) (low : p.depth ≤ depth)
    (onset : Onset (before ++ p :: after) s n acts seen)
    (within : ∀ q ∈ p.inner, seen q ∨ q ∈ s.stirred) :
    ∃ acts' seen', (see p.muted n).1 = (see p s).1.muted ∧
      Looks (before ++ p :: after) acts seen s (before ++ (see p s).1 :: after) acts' seen' (see p s).2
        (see p.muted n).2 ∧
      (∀ q ∈ (see p s).1.present, seen' q) ∧
      (∀ q ∈ s.stirred, q ∉ p.seats → q ∈ (see p s).2.stirred) ∧
      ((∃ q ∈ p.present, q ∈ s.stirred) → ∀ places : Finset Nat,
        (∀ q ∈ seatsOf (before ++ p :: after), q ∈ places) →
        (see p s).2.load acts' places < s.load acts places) := by
  obtain ⟨acts', seen', same, looks, present, less⟩ :=
    parallel p s n acts seen low onset.among.1 within
  rw [presentOf_singleton] at present
  refine ⟨acts', seen', muted_of_singleton same, looks.among onset, present, ?_, ?_⟩
  · intro q mem outside
    exact looks.stirred q mem (by rwa [seatsOf_singleton])
  intro stirred places listed
  refine less stirred places fun q mem => listed q ?_
  rw [seatsOf_singleton] at mem
  rw [seatsOf_append, seatsOf_cons]
  exact List.mem_append_right _ (List.mem_append_left _ mem)

theorem Parallel.each (parallel : Parallel see depth) (before rest : List Part)
    (low : depthOf rest ≤ depth) (onset : Onset (before ++ rest) s n acts seen)
    (earlier : ∀ q ∈ presentOf before, seen q)
    (within : ∀ m ∈ rest, ∀ q ∈ m.inner, seen q ∨ q ∈ s.stirred) :
    Reflected (before ++ rest) acts seen s (presentOf rest)
      (before ++ (seeToEach see rest s).1, (seeToEach see rest s).2)
      (mutedAll before ++ (seeToEach see (mutedAll rest) n).1, (seeToEach see (mutedAll rest) n).2) := by
  induction rest generalizing before s n acts seen with
  | nil =>
    refine ⟨acts, seen, ?_, ?_, ?_, by simp [presentOf]⟩
    · simp only [seeToEach, mutedAll, List.append_nil]
    · simpa [seeToEach, mutedAll] using Looks.refl onset
    · simpa [seeToEach] using earlier
  | cons p rest ih =>
    rw [depthOf] at low
    obtain ⟨acts₁, seen₁, same, looks, present, awake, less⟩ :=
      parallel.among (by omega) onset (within p List.mem_cons_self)
    have onset₁ := onset.looks looks
    have apart : ∀ q ∈ presentOf rest, q ∉ p.seats := fun q mem among =>
      (onset.among.2 q among).2 (presentOf_subset rest mem)
    generalize seen_in : see p s = now at same looks present awake less onset₁
    generalize seen_in' : see p.muted n = now' at same looks onset₁
    obtain ⟨p', s₁⟩ := now
    obtain ⟨p'', n₁⟩ := now'
    dsimp only at same looks present awake less onset₁
    subst same
    have regroup (p : Part) (l : List Part) : before ++ p :: l = (before ++ [p]) ++ l := by simp
    rw [regroup p' rest] at onset₁ looks
    obtain ⟨acts₂, seen₂, same₂, looks₂, present₂, less₂⟩ := ih (before ++ [p']) (by omega) onset₁ (by
      intro q mem
      rw [presentOf_append, presentOf_singleton, List.mem_append] at mem
      exact mem.elim (fun early => looks.kept q (earlier q early)) (present q)) (by
      intro m mem q inside
      rcases within m (List.mem_cons_of_mem _ mem) q inside with before | stirred
      · exact .inl (looks.kept q before)
      · refine .inr (awake q stirred (apart q ?_))
        exact mem_presentOf.mpr ⟨m, mem, inner_subset m inside⟩)
    refine ⟨acts₂, seen₂, ?_, ?_, ?_, ?_⟩
    · simp only [seeToEach, mutedAll, seen_in, seen_in']
      simp only [mutedAll_append, mutedAll, List.append_assoc, List.singleton_append] at same₂ ⊢
      exact same₂
    · simp only [seeToEach, mutedAll, seen_in, seen_in', List.append_assoc, List.singleton_append]
        at looks looks₂ ⊢
      exact looks.trans looks₂
    · simp only [seeToEach, seen_in, List.append_assoc, List.singleton_append] at present₂ ⊢
      exact present₂
    · simp only [seeToEach, seen_in]
      rintro ⟨q, mem, stirred⟩ places listed
      have listed₁ := listed
      rw [← seatsOf_congr looks.outline] at listed₁
      rw [presentOf, List.mem_append] at mem
      rcases mem with here | later
      · exact (looks₂.load places listed₁).trans_lt (less ⟨q, here, stirred⟩ places listed)
      · exact (less₂ ⟨q, later, awake q stirred (apart q later)⟩ places listed₁).trans_le
          (looks.load places listed)

theorem next_muted (members : List Part) (stirred : List Nat) :
    (stirred.findSome? fun place => (mutedAll members).findIdx? (·.holds place)) =
      stirred.findSome? fun place => members.findIdx? (·.holds place) := by
  congr 1
  funext place
  rw [mutedAll_eq_map, List.findIdx?_map]
  congr 1
  funext m
  exact holds_muted m place

theorem Onset.resting (onset : Onset members s n acts seen)
    (within : ∀ q ∈ presentOf members, seen q ∨ q ∈ s.stirred)
    (nobody : ∀ q ∈ seatsOf members, q ∉ s.stirred) :
    Reflected members acts seen s (presentOf members) (members, s) (mutedAll members, n) := by
  have unstirred (q : Nat) (mem : q ∈ presentOf members) : q ∉ s.stirred :=
    nobody q (presentOf_subset members mem)
  refine ⟨acts, seen, rfl, .refl onset, fun q mem => (within q mem).resolve_right (unstirred q mem), ?_⟩
  rintro ⟨q, mem, stirred⟩
  exact absurd stirred (unstirred q mem)

theorem Parallel.member (parallel : Parallel see depth) (low : depthOf members ≤ depth)
    (onset : Onset members s n acts seen)
    (within : ∀ q ∈ presentOf members, seen q ∨ q ∈ s.stirred) {i : Nat} (inside : i < members.length) :
    ∃ acts' seen', (see members[i].muted n).1 = (see members[i] s).1.muted ∧
      Looks members acts seen s (members.set i (see members[i] s).1) acts' seen' (see members[i] s).2
        (see members[i].muted n).2 ∧
      (∀ q ∈ presentOf (members.set i (see members[i] s).1),
        seen' q ∨ q ∈ (see members[i] s).2.stirred) ∧
      ((∃ q ∈ members[i].seats, q ∈ s.stirred) → ∀ places : Finset Nat,
        (∀ q ∈ seatsOf members, q ∈ places) →
        (see members[i] s).2.load acts' places < s.load acts places) := by
  have split : members.take i ++ members[i] :: members.drop (i + 1) = members := by
    rw [← List.drop_eq_getElem_cons inside, List.take_append_drop]
  have replaced (p' : Part) : members.set i p' = members.take i ++ p' :: members.drop (i + 1) := by
    rw [List.set_eq_take_append_cons_drop, if_pos inside]
  have present : presentOf members = presentOf (members.take i) ++
      (members[i].present ++ presentOf (members.drop (i + 1))) := by
    rw [← presentOf, ← presentOf_append, split]
  have onset₀ := onset
  rw [← split] at onset₀
  obtain ⟨acts', seen', same, looks, here, awake, less⟩ :=
    parallel.among (depth_le_of_mem (List.getElem_mem inside) low) onset₀
      fun q mem => within q (mem_presentOf.mpr ⟨_, List.getElem_mem inside, inner_subset _ mem⟩)
  rw [split, ← replaced] at looks
  rw [split] at less
  refine ⟨acts', seen', same, looks, ?_, ?_⟩
  · intro q mem
    have elsewhere (before : q ∈ presentOf members) (apart : q ∉ members[i].seats) :
        seen' q ∨ q ∈ (see members[i] s).2.stirred :=
      (within q before).imp (looks.kept q) fun stirred => awake q stirred apart
    rw [present, List.mem_append, List.mem_append] at elsewhere
    rw [replaced, presentOf_append, presentOf, List.mem_append, List.mem_append] at mem
    rcases mem with early | own | late
    · exact elsewhere (.inl early) fun sits => (onset₀.among.2 q sits).1 (presentOf_subset _ early)
    · exact .inl (here q own)
    · exact elsewhere (.inr (.inr late)) fun sits =>
        (onset₀.among.2 q sits).2 (presentOf_subset _ late)
  · rintro ⟨q, sits, stirred⟩
    have aware := onset₀.among.1.aware q (by rwa [seatsOf_singleton]) (.inl stirred)
    rw [presentOf_singleton] at aware
    exact less ⟨q, aware, stirred⟩

/-- As long as one is stirred, the member is seen to that has been for longest; there are enough turns
for that. -/
theorem Parallel.stirred (parallel : Parallel see depth) (fuel : Nat) (low : depthOf members ≤ depth)
    (onset : Onset members s n acts seen)
    (within : ∀ q ∈ presentOf members, seen q ∨ q ∈ s.stirred)
    (enough : s.load acts (seatsOf members).toFinset ≤ fuel) :
    Reflected members acts seen s (presentOf members) (seeToStirred see fuel members s)
      (seeToStirred see fuel (mutedAll members) n) := by
  induction fuel generalizing members s n acts seen with
  | zero =>
    refine onset.resting within fun q mem stirred => ?_
    have here : q ∈ (seatsOf members).toFinset.filter (· ∈ s.stirred) :=
      Finset.mem_filter.mpr ⟨List.mem_toFinset.mpr mem, stirred⟩
    have positive := Finset.card_pos.mpr ⟨q, here⟩
    rw [Scene.load] at enough
    omega
  | succ fuel ih =>
    unfold seeToStirred
    rw [onset.duet.tandem.paced.stirred, next_muted]
    split
    · rename_i nobody
      exact onset.resting within (next_eq_none onset.numbered nobody)
    · rename_i i found
      obtain ⟨q, stirred, p, here, sits⟩ := next_eq_some onset.numbered found
      obtain ⟨inside, rfl⟩ := List.getElem?_eq_some_iff.mp here
      obtain ⟨acts₁, seen₁, same, looks, within₁, less⟩ := parallel.member low onset within inside
      have lower := less ⟨q, sits, stirred⟩
      have onset₁ := onset.looks looks
      have listed : (mutedAll members)[i]? = some members[i].muted := by
        rw [mutedAll_eq_map, List.getElem?_map, here, Option.map_some]
      have muted : (mutedAll members).set i (see members[i].muted n).1 =
          mutedAll (members.set i (see members[i] s).1) := by
        rw [same, mutedAll_eq_map, mutedAll_eq_map, List.map_set]
      have low₁ : depthOf (members.set i (see members[i] s).1) ≤ depth := by rwa [looks.depth]
      have seats := seatsOf_congr looks.outline
      rw [here, listed]
      dsimp only
      rw [muted]
      obtain ⟨acts₂, seen₂, same₂, looks₂, present₂, _⟩ := ih low₁ onset₁ within₁ (by
        have least := lower (seatsOf members).toFinset fun q => List.mem_toFinset.mpr
        rw [seats]
        omega)
      refine ⟨acts₂, seen₂, same₂, looks.trans looks₂, present₂, ?_⟩
      intro _ places listed
      exact (looks₂.load places (by rwa [seats])).trans_lt (lower places listed)

/-! ### Parts -/

theorem Goes.awake {place q : Nat} {act : Act} (goes : Goes place acts seen s act s' n')
    (mem : q ∈ s.stirred) (other : q ≠ place) : q ∈ s'.stirred := by
  obtain ⟨more, stirred, _⟩ := goes.stirred
  rw [stirred]
  exact List.mem_append_left _ ((List.mem_erase_of_ne other).mpr mem)

theorem Looks.own {place : Nat} {act : Act} {rest : List (Nat × Act)}
    (onset : Onset [p] s n acts seen) (roles : p.roles = (place, acts place) :: rest)
    (goes : Goes place acts seen s act s' n') (roles' : p'.roles = (place, act) :: rest)
    (outline : p'.outline = p.outline) (sound : p'.IsSound) (present : p.present ⊆ p'.present)
    (own : place ∈ p'.present) :
    Looks [p] acts seen s [p'] (Function.update acts place act) (fun q => seen q ∨ q = place) s' n' := by
  have sits : place ∈ p.seats := by
    rw [seats, roles]
    exact List.mem_cons_self
  have seats {q : Nat} : q ∈ seatsOf [p] ↔ q ∈ p.seats := by rw [seatsOf_singleton]
  refine ⟨by simp only [outlineOf, outline], ?_, ?_, ?_, goes.duet, goes.now, goes.joiners, goes.calls, ?_,
    fun _ => .inl, ?_, ?_, ?_⟩
  · have once := onset.once
    rw [seatsOf_singleton, Part.seats, roles, List.map_cons, List.nodup_cons] at once
    have embodied := onset.embodied
    rw [rolesOf_singleton, roles] at embodied
    intro e mem
    rw [rolesOf_singleton, roles'] at mem
    rcases List.mem_cons.mp mem with rfl | later
    · exact Function.update_self ..
    · have other : e.1 ≠ place := by
        rintro rfl
        exact once.1 (List.mem_map.mpr ⟨e, later, rfl⟩)
      rw [Function.update_of_ne other]
      exact embodied e (List.mem_cons_of_mem _ later)
  · rw [AreSound, AreSound]
    exact ⟨sound, trivial⟩
  · rw [presentOf_singleton, presentOf_singleton]
    exact present
  · intro q outside
    refine Function.update_of_ne ?_ _ _
    rintro rfl
    exact outside (seats.mpr sits)
  · intro q involves
    refine (goes.involved q involves).imp_right fun here => ?_
    rw [presentOf_singleton, here]
    exact own
  · intro q mem outside
    refine goes.awake mem ?_
    rintro rfl
    exact outside (seats.mpr sits)
  · intro places within
    have least := goes.load_le onset.duet.hosted.once (within place (seats.mpr sits))
    omega

theorem Onset.enter {place size time : Nat}
    (onset : Onset [.ensemble place size (.begun time) members] s n acts seen) :
    Onset members s n acts seen ∧ place ∉ seatsOf members := by
  obtain ⟨duet, embodied, sound, numbered, once, aware⟩ := onset
  rw [rolesOf_singleton, roles] at embodied
  rw [AreSound, IsSound] at sound
  rw [AreNumbered, IsNumbered] at numbered
  rw [seatsOf_singleton, seats_ensemble, List.nodup_cons] at once
  refine ⟨⟨duet, fun e mem => embodied e (List.mem_cons_of_mem _ mem), sound.1.2, numbered.1.2.2,
    once.2, ?_⟩, once.1⟩
  intro q mem involves
  have here := aware q (by
    rw [seatsOf_singleton, seats_ensemble]
    exact List.mem_cons_of_mem _ mem) involves
  rw [presentOf_singleton, present] at here
  rcases List.mem_cons.mp here with rfl | among
  · exact absurd mem once.1
  · exact among

def Entrance.hasBegun : Entrance → Bool
  | .begun _ => true
  | _ => false

theorem present_outside {place size : Nat} {entrance : Entrance} (outside : entrance.hasBegun = false) :
    (Part.ensemble place size entrance members).present = [place] := by
  cases entrance with
  | begun time => cases outside
  | ahead | waiting => simp [present]

theorem Looks.entered {place size : Nat} {entrance entrance' : Entrance}
    (onset : Onset [.ensemble place size entrance members] s n acts seen)
    (goes : Goes place acts seen s entrance'.act s' n')
    (began : entrance.hasBegun = true → entrance'.hasBegun = true) :
    Looks [.ensemble place size entrance members] acts seen s [.ensemble place size entrance' members]
      (Function.update acts place entrance'.act) (fun q => seen q ∨ q = place) s' n' := by
  have here : acts place = entrance.act :=
    onset.embodied (place, entrance.act) (by simp [rolesOf, roles])
  have sound := onset.sound
  rw [AreSound, IsSound] at sound
  obtain ⟨⟨entered, sound⟩, _⟩ := sound
  refine Looks.own onset (by rw [roles, here]) goes (by rw [roles]) (by rw [Part.outline, Part.outline]) ?_ ?_ ?_
  · rw [IsSound]
    refine ⟨?_, sound⟩
    rcases entered with ⟨before, rfl⟩ | fresh
    · cases entrance' with
      | begun time => exact .inl ⟨time, rfl⟩
      | ahead | waiting => cases began rfl
    · exact .inr fresh
  · cases entrance with
    | begun before =>
      cases entrance' with
      | begun time => rw [Part.present, Part.present]; exact List.Subset.refl _
      | ahead | waiting => cases began rfl
    | ahead | waiting =>
      rw [present_outside rfl]
      cases entrance' <;> simp [Part.present]
  · cases entrance' <;> simp [Part.present]

theorem Looks.enclosed {place size time : Nat}
    (onset : Onset [.ensemble place size (.begun time) members] s n acts seen)
    (looks : Looks members acts seen s members' acts' seen' s' n') :
    Looks [.ensemble place size (.begun time) members] acts seen s
      [.ensemble place size (.begun time) members'] acts' seen' s' n' := by
  obtain ⟨_, apart⟩ := onset.enter
  have listed {q : Nat} : q ∈ seatsOf [ensemble place size (.begun time) members] ↔
      q = place ∨ q ∈ seatsOf members := by
    rw [seatsOf_singleton, seats_ensemble, List.mem_cons]
  refine ⟨?_, ?_, ?_, ?_, looks.duet, looks.now, looks.joiners, looks.calls, ?_, looks.kept, ?_, ?_, ?_⟩
  · simp only [outlineOf, Part.outline, looks.outline]
  · have embodied := onset.embodied
    rw [rolesOf_singleton, roles] at embodied
    intro e mem
    rw [rolesOf_singleton, roles] at mem
    rcases List.mem_cons.mp mem with rfl | later
    · rw [looks.frame place apart]
      exact embodied _ List.mem_cons_self
    · exact looks.embodied e later
  · rw [AreSound, IsSound, AreSound]
    exact ⟨⟨.inl ⟨time, rfl⟩, looks.sound⟩, trivial⟩
  · rw [presentOf_singleton, presentOf_singleton, Part.present, Part.present]
    exact List.cons_subset_cons place looks.present
  · exact fun q outside => looks.frame q fun mem => outside (listed.mpr (.inr mem))
  · intro q involves
    refine (looks.involved q involves).imp_right fun mem => ?_
    rw [presentOf_singleton, Part.present]
    exact List.mem_cons_of_mem _ mem
  · exact fun q mem outside => looks.stirred q mem fun among => outside (listed.mpr (.inr among))
  · exact fun places within => looks.load places fun q mem => within q (listed.mpr (.inr mem))

/-- The members of an ensemble are all seen to, unless it is large and had begun before; those of a
large one are then seen to as long as they are stirred. -/
def Part.seeToMembers (see : Part → Scene → Part × Scene) (fuel : Nat) (wasBegun : Bool)
    (members : List Part) (s : Scene) : List Part × Scene :=
  let (members, s) :=
    if wasBegun && smallEnsemble < members.length then (members, s) else seeToEach see members s
  if smallEnsemble < members.length then seeToStirred see fuel members s else (members, s)

theorem seeTo_ensemble (depth place size : Nat) (entrance : Entrance) (members : List Part) (s : Scene) :
    Part.seeTo (depth + 1) (.ensemble place size entrance members) s =
      match (s.unstir place).enter place entrance with
      | (s, .begun time) =>
        let (members, s) := Part.seeToMembers (Part.seeTo depth) (size * size)
          entrance.hasBegun members s
        (.ensemble place size (.begun time) members, s)
      | (s, entrance) => (.ensemble place size entrance members, s) := by
  cases entrance <;> rfl

theorem Parallel.attendAll (parallel : Parallel see depth) (wasBegun : Bool) (fuel : Nat)
    (small : ¬ smallEnsemble < members.length) (low : depthOf members ≤ depth)
    (onset : Onset members s n acts seen)
    (within : ∀ m ∈ members, ∀ q ∈ m.inner, seen q ∨ q ∈ s.stirred) :
    Reflected members acts seen s (presentOf members) (seeToMembers see fuel wasBegun members s)
      (seeToMembers see fuel wasBegun (mutedAll members) n) := by
  have each : Reflected members acts seen s (presentOf members) (seeToEach see members s)
      (seeToEach see (mutedAll members) n) :=
    parallel.each [] members low onset (by simp [presentOf]) within
  have whole := each
  obtain ⟨_, _, same, looks, _⟩ := whole
  have count' : (seeToEach see (mutedAll members) n).1.length = members.length := by
    rw [same, length_mutedAll, looks.length]
  simpa only [seeToMembers, length_mutedAll, small, decide_false, Bool.and_false,
    Bool.false_eq_true, if_false, looks.length, count'] using each

theorem Parallel.attendLarge (parallel : Parallel see depth) (fuel : Nat)
    (large : smallEnsemble < members.length) (low : depthOf members ≤ depth)
    (onset : Onset members s n acts seen)
    (within : ∀ m ∈ members, ∀ q ∈ m.inner, seen q ∨ q ∈ s.stirred)
    (enough : 2 * (seatsOf members).toFinset.card ≤ fuel) :
    Reflected members acts seen s [] (seeToMembers see fuel false members s)
      (seeToMembers see fuel false (mutedAll members) n) := by
  have each : Reflected members acts seen s (presentOf members) (seeToEach see members s)
      (seeToEach see (mutedAll members) n) :=
    parallel.each [] members low onset (by simp [presentOf]) within
  obtain ⟨acts₁, seen₁, same, looks, present, _⟩ := each
  simp only [seeToMembers, Bool.false_and, Bool.false_eq_true, if_false]
  generalize seeToEach see members s = now at same looks present ⊢
  generalize seeToEach see (mutedAll members) n = now' at same looks ⊢
  obtain ⟨members₁, s₁⟩ := now
  obtain ⟨members₁', n₁⟩ := now'
  dsimp only at same looks present ⊢
  subst same
  have fits : s₁.load acts₁ (seatsOf members₁).toFinset ≤ fuel := by
    rw [seatsOf_congr looks.outline]
    exact (s₁.load_le acts₁ _).trans enough
  obtain ⟨acts₂, seen₂, same₂, looks₂, present₂, _⟩ :=
    parallel.stirred fuel (looks.depth ▸ low) (onset.looks looks)
      (fun q mem => .inl (present q mem)) fits
  simp only [length_mutedAll, looks.length, large, if_true]
  exact ⟨acts₂, seen₂, same₂, looks.trans looks₂, present₂, by simp⟩

theorem Parallel.attend (parallel : Parallel see depth) (wasBegun : Bool) (fuel : Nat)
    (low : depthOf members ≤ depth) (onset : Onset members s n acts seen)
    (within : wasBegun = true → ∀ q ∈ presentOf members, seen q ∨ q ∈ s.stirred)
    (fresh : wasBegun = false → ∀ m ∈ members, m.inner = [])
    (enough : 2 * (seatsOf members).toFinset.card ≤ fuel) :
    Reflected members acts seen s (if wasBegun = true then presentOf members else [])
      (seeToMembers see fuel wasBegun members s)
      (seeToMembers see fuel wasBegun (mutedAll members) n) := by
  have inside : ∀ m ∈ members, ∀ q ∈ m.inner, seen q ∨ q ∈ s.stirred := by
    intro m mem q here
    cases wasBegun with
    | true => exact within rfl q (mem_presentOf.mpr ⟨m, mem, inner_subset m here⟩)
    | false =>
      rw [fresh rfl m mem] at here
      cases here
  by_cases large : smallEnsemble < members.length
  · cases wasBegun with
    | true =>
      have stirred := parallel.stirred fuel low onset (within rfl) ((s.load_le acts _).trans enough)
      simpa [seeToMembers, large, length_mutedAll] using stirred
    | false => exact parallel.attendLarge fuel large low onset inside enough
  · apply (parallel.attendAll wasBegun fuel large low onset inside).of_subset
    split
    · exact List.Subset.refl _
    · exact List.nil_subset _

theorem parallel_solo (depth place : Nat) (act : Act)
    (onset : Onset [.solo place act] s n acts seen) :
    Reflected [.solo place act] acts seen s [place]
      ([((Part.solo place act).seeTo depth s).1], ((Part.solo place act).seeTo depth s).2)
      ([((Part.solo place act).muted.seeTo depth n).1], ((Part.solo place act).muted.seeTo depth n).2) := by
  have here : acts place = act := onset.embodied (place, act) (by simp [rolesOf, roles])
  subst here
  obtain ⟨same, goes⟩ := onset.duet.seeTo place
  rw [Part.muted, Part.seeTo, Part.seeTo]
  generalize (s.unstir place).seeTo place (acts place) = now at same goes ⊢
  generalize (n.unstir place).seeTo place (acts place).muted = now' at same goes ⊢
  obtain ⟨s', act⟩ := now
  obtain ⟨n', act'⟩ := now'
  dsimp only at same goes ⊢
  subst same
  have looks := Looks.own onset (by rw [roles]) goes (show roles (.solo place act) = _ by rw [roles])
    (by rw [outline, outline]) (by rw [IsSound]; trivial) (by rw [present, present]; exact List.Subset.refl _)
    (by rw [present]; exact List.mem_singleton_self _)
  refine ⟨_, _, by rw [mutedAll, mutedAll, Part.muted], looks, ?_, ?_⟩
  · intro q mem
    rw [presentOf_singleton, present, List.mem_singleton] at mem
    exact .inr mem
  · rintro ⟨q, mem, stirred⟩ places within
    rw [List.mem_singleton] at mem
    subst mem
    have less := goes.load_le onset.duet.hosted.once (within q (by simp [seatsOf_singleton, seats, roles]))
    rw [if_pos stirred] at less
    exact less

theorem Onset.enters {place size : Nat} {entrance : Entrance}
    (onset : Onset [.ensemble place size entrance members] s n acts seen) :
    ((n.unstir place).enter place entrance).2 = ((s.unstir place).enter place entrance).2 ∧
      (entrance.hasBegun = true → ((s.unstir place).enter place entrance).2.hasBegun = true) ∧
      Goes place acts seen s ((s.unstir place).enter place entrance).2.act
        ((s.unstir place).enter place entrance).1 ((n.unstir place).enter place entrance).1 := by
  have here : acts place = entrance.act :=
    onset.embodied (place, entrance.act) (by simp [rolesOf, roles])
  obtain ⟨same, goes⟩ := onset.duet.seeTo place
  rw [here, entrance.act_muted, Scene.seeTo_entrance, Scene.seeTo_entrance] at same goes
  rw [((s.unstir place).enter place entrance).2.act_muted] at same
  refine ⟨Entrance.eq_of_act same, ?_, goes⟩
  cases entrance with
  | begun before => exact id
  | ahead | waiting => simp [Entrance.hasBegun]

theorem Onset.outside {place size : Nat} {entrance entrance' : Entrance}
    (onset : Onset [.ensemble place size entrance members] s n acts seen)
    (goes : Goes place acts seen s entrance'.act s' n') (before : entrance.hasBegun = false)
    (still : entrance'.hasBegun = false) :
    Reflected [.ensemble place size entrance members] acts seen s [place]
      ([.ensemble place size entrance' members], s')
      ([.ensemble place size entrance' (mutedAll members)], n') := by
  have own := Looks.entered onset goes (by simp [before])
  refine ⟨_, _, by rw [mutedAll, mutedAll, Part.muted], own, ?_, ?_⟩
  · intro q mem
    rw [presentOf_singleton, present_outside still, List.mem_singleton] at mem
    exact .inr mem
  · rintro ⟨q, mem, stirred⟩ places covered
    rw [List.mem_singleton] at mem
    subst mem
    have less := goes.load_le onset.duet.hosted.once
      (covered q (by simp [seatsOf_singleton, seats_ensemble]))
    rwa [if_pos stirred] at less

theorem Onset.fresh {place size : Nat} {entrance : Entrance}
    (onset : Onset [.ensemble place size entrance members] s n acts seen)
    (outside : entrance.hasBegun = false) : ∀ m ∈ members, m.inner = [] := by
  have sound := onset.sound
  rw [AreSound, IsSound] at sound
  obtain ⟨⟨entered, _⟩, _⟩ := sound
  rcases entered with ⟨before, rfl⟩ | fresh
  · cases outside
  · exact fun m mem => (fresh m mem).inner

theorem Parallel.inside (parallel : Parallel see depth) {place size time : Nat} {entrance : Entrance}
    (low : depthOf members ≤ depth)
    (onset : Onset [.ensemble place size entrance members] s n acts seen)
    (within : ∀ q ∈ (Part.ensemble place size entrance members).inner, seen q ∨ q ∈ s.stirred)
    (goes : Goes place acts seen s (Entrance.begun time).act s' n') :
    Reflected [.ensemble place size entrance members] acts seen s
      (Part.ensemble place size entrance members).present
      ([.ensemble place size (.begun time)
          (seeToMembers see (size * size) entrance.hasBegun members s').1],
        (seeToMembers see (size * size) entrance.hasBegun members s').2)
      ([.ensemble place size (.begun time)
          (seeToMembers see (size * size) entrance.hasBegun (mutedAll members) n').1],
        (seeToMembers see (size * size) entrance.hasBegun (mutedAll members) n').2) := by
  have numbered := onset.numbered
  rw [AreNumbered, IsNumbered] at numbered
  obtain ⟨⟨positive, consecutive, _⟩, _⟩ := numbered
  have listed {q : Nat} : q ∈ seatsOf [ensemble place size entrance members] ↔
      q = place ∨ q ∈ seatsOf members := by
    rw [seatsOf_singleton, seats_ensemble, List.mem_cons]
  have own := Looks.entered onset goes fun _ => rfl
  have onset' := onset.looks own
  obtain ⟨entry, apart⟩ := onset'.enter
  have awake {q : Nat} (mem : q ∈ presentOf members) (stirred : q ∈ s.stirred) : q ∈ s'.stirred :=
    goes.awake stirred fun same => apart (same ▸ presentOf_subset _ mem)
  have waiting (wasBegun : entrance.hasBegun = true) :
      ∀ q ∈ presentOf members, (seen q ∨ q = place) ∨ q ∈ s'.stirred := by
    intro q mem
    cases entrance with
    | begun before => exact (within q (by rwa [Part.inner])).imp .inl (awake mem)
    | ahead | waiting => cases wasBegun
  obtain ⟨acts₂, seen₂, same, looks, present₂, less⟩ :=
    parallel.attend entrance.hasBegun (size * size) low entry waiting onset.fresh
      (turns_enough positive consecutive)
  refine ⟨acts₂, seen₂, by rw [mutedAll, mutedAll, Part.muted, same],
    own.trans (looks.enclosed onset'), ?_, ?_⟩
  · intro q mem
    rw [presentOf_singleton, present] at mem
    rcases List.mem_cons.mp mem with rfl | among
    · exact looks.kept q (.inr rfl)
    · exact present₂ q among
  · rintro ⟨q, mem, stirred⟩ places covered
    have first := goes.load_le onset.duet.hosted.once (covered place (listed.mpr (.inl rfl)))
    have covered' : ∀ q ∈ seatsOf members, q ∈ places := fun q mem => covered q (listed.mpr (.inr mem))
    by_cases leader : q = place
    · subst leader
      rw [if_pos stirred] at first
      exact (looks.load places covered').trans_lt first
    · cases entrance with
      | begun before =>
        rw [present] at mem
        have among := (List.mem_cons.mp mem).resolve_left leader
        have second := less ⟨q, by simpa [Entrance.hasBegun] using among, awake among stirred⟩
          places covered'
        exact second.trans_le (by omega)
      | ahead | waiting =>
        rw [present_outside rfl, List.mem_singleton] at mem
        exact absurd mem leader

theorem Parallel.ensemble (ih : Parallel (Part.seeTo depth) depth) {place size : Nat}
    {entrance : Entrance} (low : depthOf members ≤ depth)
    (onset : Onset [.ensemble place size entrance members] s n acts seen)
    (within : ∀ q ∈ (Part.ensemble place size entrance members).inner, seen q ∨ q ∈ s.stirred) :
    Reflected [.ensemble place size entrance members] acts seen s
      (Part.ensemble place size entrance members).present
      ([((Part.ensemble place size entrance members).seeTo (depth + 1) s).1],
        ((Part.ensemble place size entrance members).seeTo (depth + 1) s).2)
      ([((Part.ensemble place size entrance members).muted.seeTo (depth + 1) n).1],
        ((Part.ensemble place size entrance members).muted.seeTo (depth + 1) n).2) := by
  obtain ⟨same, began, goes⟩ := onset.enters
  rw [Part.muted, seeTo_ensemble, seeTo_ensemble]
  generalize (s.unstir place).enter place entrance = now at same began goes ⊢
  generalize (n.unstir place).enter place entrance = now' at same goes ⊢
  obtain ⟨s', entrance'⟩ := now
  obtain ⟨n', entrance''⟩ := now'
  dsimp only at same began goes ⊢
  subst same
  cases entrance'' with
  | begun time => exact ih.inside low onset within goes
  | ahead | waiting =>
    have before : entrance.hasBegun = false := Bool.eq_false_iff.mpr fun begun => by
      cases began begun
    rw [present_outside before]
    exact onset.outside goes before rfl

/-- Whatever part is seen to, it does the same in both scenes. -/
theorem parallel_seeTo (depth : Nat) : Parallel (Part.seeTo depth) depth := by
  induction depth with
  | zero =>
    intro p s n acts seen low onset _
    cases p with
    | solo place act =>
      rw [present]
      exact parallel_solo 0 place act onset
    | ensemble place size entrance members =>
      rw [depth] at low
      omega
  | succ depth ih =>
    intro p s n acts seen low onset within
    cases p with
    | solo place act =>
      rw [present]
      exact parallel_solo (depth + 1) place act onset
    | ensemble place size entrance members =>
      rw [Part.depth] at low
      exact ih.ensemble (by omega) onset within

end
end FlowRuntime.Rehearsal
