import FlowRuntime.Listener.Audience
import FlowRuntime.Proofs.Record.Recorder

/-!
Listeners and what they are told. A listener handles what it was told one after the other, as much
of it as it comes to at a time, until it has handled what ends its listening. We verify that
however often it is told more, and however slowly it works, what it has handled, what it
is at work on and what is pending make up exactly what it was told; and that it has less left
to do whenever it does something.
-/
namespace FlowRuntime

def EndsOnce (told : List Transition) : Prop := ∀ t ∈ told.dropLast, t.isLast = false

namespace Listener

def inbox : Listener → Inbox
  | .hearer h => h.inbox
  | .recorder r => r.inbox

def withInbox (i : Inbox) : Listener → Listener
  | .hearer h => .hearer { h with inbox := i }
  | .recorder r => .recorder { r with inbox := i }

def workOn (l : Listener) (most now : Nat) (ledger : Ledger) : Listener × Ledger :=
  let taken := l.withInbox { l.inbox with pending := l.inbox.pending.take most }
  let (worked, ledger) := taken.work now ledger
  if worked.isOver then (worked, ledger)
  else (worked.withInbox { worked.inbox with
    pending := worked.inbox.pending ++ l.inbox.pending.drop most }, ledger)

def Quits (l : Listener) (n : Notice) : Prop :=
  match l with
  | .hearer h => h.quits n = true
  | .recorder _ => n.isLast = true

/-- Whether it shows that it has handled these, and that it is at work on one more. -/
inductive Shows : Listener → List Notice → Option Notice → Prop where
  | heard {h : Hearer} (idle : h.hearing = none) : Shows (.hearer h) h.heard none
  | hearing {h : Hearer} {w : Hearing} {n : Notice} {handled : List Notice}
      (heard : h.heard = handled ++ [n]) (hearing : h.hearing = some w)
      (quits : w.quits = h.quits n) : Shows (.hearer h) handled (some n)
  | idle {r : Recorder} (handled : List Notice) (idle : r.writing = none) :
      Shows (.recorder r) handled none
  | busy {r : Recorder} {w : Writing} {n : Notice} (handled : List Notice)
      (writing : r.writing = some w)
      (entry : RecordWrite.ofNotice? r.options n = some w.write)
      (last : w.isLast = n.isLast) : Shows (.recorder r) handled (some n)

/-- How far it has come with what it was told: it listens still, or has quit as soon as it had to. -/
inductive Progress (told : List Notice) (l : Listener) : Prop where
  | listening {handled : List Notice} {current : Option Notice} (going : l.isOver = false)
      (split : told = handled ++ current.toList ++ l.inbox.pending)
      (on : ∀ n ∈ handled, ¬ l.Quits n) (shows : l.Shows handled current) : Progress told l
  | quit {before after : List Notice} {n : Notice} (ended : l.isOver = true)
      (closed : l.inbox = .closed) (split : told = before ++ n :: after)
      (on : ∀ u ∈ before, ¬ l.Quits u) (quits : l.Quits n) (shows : l.Shows (before ++ [n]) none) :
      Progress told l

/-- This is all that a listener has been told, and it will be told what follows. -/
structure Receives (told : List Notice) (l : Listener) : Prop where
  opens : l.isOver = false → (∀ n ∈ told, n.isLast = false) → l.inbox.isOpen = true
  progress : Progress told l

/-! ### Inboxes -/

section
variable {l : Listener} {i : Inbox}

@[simp] theorem inbox_withInbox : (l.withInbox i).inbox = i := by cases l <;> rfl

@[simp] theorem isOver_withInbox : (l.withInbox i).isOver = l.isOver := by cases l <;> rfl

@[simp] theorem withInbox_inbox : l.withInbox l.inbox = l := by cases l <;> rfl

@[simp] theorem quits_withInbox {n : Notice} : (l.withInbox i).Quits n ↔ l.Quits n := by
  cases l <;> rfl

theorem Shows.withInbox {handled : List Notice} {current : Option Notice}
    (shows : l.Shows handled current) (i : Inbox) : (l.withInbox i).Shows handled current := by
  cases shows with
  | @heard h idle => exact .heard (h := { h with inbox := i }) idle
  | @hearing h _ _ _ heard hearing quits => exact .hearing (h := { h with inbox := i }) heard hearing quits
  | idle handled idle => exact .idle handled idle
  | busy handled writing entry last => exact .busy handled writing entry last

theorem tell_eq (l : Listener) (n : Notice) : l.tell n = l.withInbox (l.inbox.tell n) := by
  cases l <;> rfl

theorem workOn_all {most : Nat} (all : l.inbox.pending.length ≤ most) (now : Nat) (ledger : Ledger) :
    l.workOn most now ledger = l.work now ledger := by
  have whole : l.withInbox { l.inbox with pending := l.inbox.pending } = l := withInbox_inbox
  unfold workOn
  rw [List.take_of_length_le all, List.drop_eq_nil_of_le all]
  dsimp only
  rw [whole, List.append_nil]
  split
  · rfl
  · exact Prod.ext withInbox_inbox rfl

end

/-! ### Progress -/

section
variable {l : Listener} {told : List Notice}

theorem Progress.cut {handled : List Notice} {current : Option Notice}
    (going : l.isOver = false) (on : ∀ n ∈ handled, ¬ l.Quits n) (shows : l.Shows handled current)
    (pending : List Notice) (isOpen : Bool) :
    Progress (handled ++ current.toList ++ pending) (l.withInbox ⟨pending, isOpen⟩) := by
  refine .listening (by simpa using going) (by simp) ?_ (shows.withInbox _)
  intro t mem
  simpa using on t mem

theorem Progress.extend (progress : Progress told l) (ended : l.isOver = true)
    (more : List Notice) : Progress (told ++ more) l := by
  cases progress with
  | listening going => simp [going] at ended
  | quit ended closed split on quits shows =>
    exact .quit ended closed (by rw [split, List.append_assoc]; rfl) on quits shows

theorem Progress.append (progress : Progress told l) (going : l.isOver = false)
    (more : List Notice) (isOpen : Bool) :
    Progress (told ++ more) (l.withInbox ⟨l.inbox.pending ++ more, isOpen⟩) := by
  cases progress with
  | listening going split on shows =>
    rw [split, List.append_assoc]
    exact .cut going on shows _ _
  | quit ended => simp [ended] at going

theorem Receives.tell (receives : Receives told l) {n : Notice} (unended : EndsOnce ((told ++ [n]).map Notice.toTransition))
    (onward : n.source.isSome = true) : Receives (told ++ [n]) (l.tell n) := by
  have before : ∀ u ∈ told, u.isLast = false := by simpa [EndsOnce] using unended
  rw [tell_eq]
  cases ended : l.isOver with
  | true =>
    have progress := receives.progress.extend ended [n]
    cases receives.progress with
    | listening going => simp [going] at ended
    | quit _ closed =>
      have same : l.withInbox (l.inbox.tell n) = l := by
        rw [closed, Inbox.tell, Inbox.closed, if_neg (by simp)]
        change l.withInbox .closed = l
        rw [← closed, withInbox_inbox]
      rw [same]
      refine ⟨?_, progress⟩
      intro going
      simp [ended] at going
  | false =>
    have opened := receives.opens ended before
    rw [Inbox.tell, if_pos opened]
    refine ⟨?_, receives.progress.append ended [n] _⟩
    intro _ still
    have last := still n (by simp)
    simpa [Transition.isLast, onward] using last

end
end Listener

/-! ### Work -/

section
variable {told handled : List Notice}

theorem Hearer.hearAll_progress (h : Hearer) (now : Nat) (pending : List Notice)
    (going : h.isOver = false) (idle : h.hearing = none)
    (on : ∀ n ∈ h.heard, ¬ (Listener.hearer h).Quits n) :
    Listener.Progress (h.heard ++ pending) (.hearer (h.hearAll now pending)) := by
  induction pending generalizing h with
  | nil =>
    rw [hearAll]
    exact .listening going (by simp [Listener.inbox]) on (.heard idle)
  | cons n rest ih =>
    unfold hearAll
    dsimp only
    split
    · split
      · rename_i quits
        exact .quit rfl rfl rfl on quits (.heard idle)
      · rename_i unmoved
        have next := ih { h with pace := h.pace.tail, heard := h.heard ++ [n] } going idle ?_
        · simpa using next
        · intro u mem
          rcases List.mem_append.mp mem with before | here
          · exact on u before
          · rw [List.mem_singleton.mp here]
            exact unmoved
    · exact .listening going (by simp [Listener.inbox]) on (.hearing rfl rfl rfl)

theorem Hearer.work_progress {h : Hearer} {w : Hearing} {n : Notice} (now : Nat)
    (going : h.isOver = false) (heard : h.heard = handled ++ [n]) (hearing : h.hearing = some w)
    (quits : w.quits = h.quits n) (on : ∀ u ∈ handled, ¬ (Listener.hearer h).Quits u) :
    Listener.Progress (handled ++ [n] ++ h.inbox.pending) (.hearer (h.work now)) := by
  simp only [work, hearing]
  split
  · exact .listening going rfl on (.hearing heard hearing quits)
  · split
    · rename_i ends
      rw [quits] at ends
      refine .quit rfl rfl (List.append_assoc _ _ _) on ends ?_
      rw [← heard]
      exact .heard rfl
    · rename_i unmoved
      rw [quits] at unmoved
      rw [← heard]
      refine hearAll_progress { h with hearing := none } now h.inbox.pending going rfl ?_
      intro u mem
      change u ∈ h.heard at mem
      rw [heard] at mem
      rcases List.mem_append.mp mem with before | here
      · exact on u before
      · rw [List.mem_singleton.mp here]
        exact unmoved

variable {r : Recorder}

theorem Recorder.progress_after (idle : r.writing = none) {n : Notice} {pending : List Notice}
    {ledger : Ledger} {now : Nat} {last : Bool} (is_last : last = n.isLast)
    (split : told = handled ++ n :: pending) (on : ∀ u ∈ handled, u.isLast = false)
    (later : n.isLast = false → Listener.Progress told (.recorder (r.handleAll now pending ledger).1)) :
    Listener.Progress told (.recorder
      (if last then ({ r with inbox := .closed, isOver := true }, ledger)
        else r.handleAll now pending ledger).1) := by
  subst is_last
  cases ends : n.isLast with
  | true =>
    refine .quit rfl rfl split ?_ ends (.idle _ idle)
    intro u mem
    simp [Listener.Quits, on u mem]
  | false => exact later ends

theorem Recorder.handleAll_progress (now : Nat) {pending : List Notice} (ledger : Ledger)
    (going : r.isOver = false) (idle : r.writing = none) (on : ∀ n ∈ handled, n.isLast = false) :
    Listener.Progress (handled ++ pending) (.recorder (r.handleAll now pending ledger).1) := by
  induction pending generalizing handled ledger with
  | nil =>
    refine .listening going (by simp [handleAll, Listener.inbox]) ?_ (.idle handled idle)
    intro n mem
    simp [Listener.Quits, on n mem]
  | cons n rest ih =>
    have next (ledger : Ledger) (onward : n.isLast = false) :
        Listener.Progress (handled ++ n :: rest) (.recorder (r.handleAll now rest ledger).1) := by
      have more := List.forall_mem_append.mpr ⟨on, List.forall_mem_singleton.mpr onward⟩
      simpa using ih ledger more
    unfold handleAll
    dsimp only
    cases entry : RecordWrite.ofNotice? r.options n with
    | none => exact progress_after idle rfl rfl on (next ledger)
    | some write =>
      dsimp only
      generalize supply now write r.policy.delay (Backoff.start r.policy).left ledger = supplied
      obtain ⟨ledger', waits⟩ := supplied
      cases waits with
      | none => exact progress_after idle rfl rfl on (next ledger')
      | some waits =>
        refine .listening going (by simp [Listener.inbox]) ?_ (.busy handled rfl entry rfl)
        intro u mem
        simp [Listener.Quits, on u mem]

theorem Recorder.work_progress {w : Writing} {n : Notice} (now : Nat) (ledger : Ledger)
    (going : r.isOver = false) (writing : r.writing = some w)
    (entry : RecordWrite.ofNotice? r.options n = some w.write)
    (last : w.isLast = n.isLast) (on : ∀ u ∈ handled, u.isLast = false) :
    Listener.Progress (handled ++ [n] ++ r.inbox.pending)
      ((Listener.recorder r).work now ledger).1 := by
  have later (ledger : Ledger) (onward : n.isLast = false) :
      Listener.Progress (handled ++ [n] ++ r.inbox.pending)
        (.recorder ({ r with writing := none }.handleAll now r.inbox.pending ledger).1) := by
    have on := List.forall_mem_append.mpr ⟨on, List.forall_mem_singleton.mpr onward⟩
    exact handleAll_progress (r := { r with writing := none }) now ledger going rfl on
  simp only [Listener.work, Recorder.work, writing]
  split
  · exact .listening going rfl (by simpa [Listener.Quits] using on)
      (.busy handled writing entry last)
  · generalize goOn now w.write r.policy.delay w.stay ledger = supplied
    obtain ⟨ledger', waits⟩ := supplied
    cases waits with
    | none =>
      refine progress_after (r := { r with writing := none }) rfl last ?_ on ?_
      · simp
      · simpa using later ledger'
    | some waits =>
      exact .listening going rfl (by simpa [Listener.Quits] using on) (.busy handled rfl entry last)

theorem Listener.work_closed {l : Listener} (closed : l.inbox = .closed) (idle : l.Shows handled none)
    (now : Nat) (ledger : Ledger) : l.work now ledger = (l, ledger) := by
  cases l with
  | hearer h =>
    obtain ⟨name, fears, pace, inbox, heard, hearing, isOver⟩ := h
    obtain rfl : inbox = .closed := closed
    cases idle with
    | heard idle =>
      obtain rfl : hearing = none := idle
      rfl
  | recorder r =>
    obtain ⟨options, policy, inbox, writing, isOver⟩ := r
    obtain rfl : inbox = .closed := closed
    cases idle with
    | idle _ idle =>
      obtain rfl : writing = none := idle
      rfl

theorem Listener.Progress.work {l : Listener} (progress : Listener.Progress told l) (now : Nat)
    (ledger : Ledger) : Listener.Progress told (l.work now ledger).1 := by
  cases progress with
  | @listening handled current going split on shows =>
    rw [split]
    cases shows with
    | @heard h idle =>
      simp only [Listener.work, Hearer.work, idle, Option.toList_none, List.append_nil]
      exact h.hearAll_progress now h.inbox.pending going idle on
    | hearing heard hearing quits => exact Hearer.work_progress now going heard hearing quits on
    | @idle r handled idle =>
      have on : ∀ n ∈ handled, n.isLast = false := by simpa [Quits] using on
      simp only [Listener.work, Recorder.work, idle, Option.toList_none, List.append_nil]
      exact Recorder.handleAll_progress now ledger going idle on
    | busy handled writing entry last =>
      have on : ∀ n ∈ handled, n.isLast = false := by simpa [Quits] using on
      exact Recorder.work_progress now ledger going writing entry last on
  | quit ended closed split on quits shows =>
    rw [l.work_closed closed shows]
    exact .quit ended closed split on quits shows

/-! ### What work leaves as it was -/

namespace Listener

inductive Same : Listener → Listener → Prop where
  | hearer {h h' : Hearer} (name : h'.name = h.name) (fears : h'.fears = h.fears) :
      Same (.hearer h) (.hearer h')
  | recorder {r r' : Recorder} (same : Recorder.Same r r') : Same (.recorder r) (.recorder r')

structure Works (l l' : Listener) : Prop where
  same : Same l l'
  opened : l'.isOver = false → l.isOver = false ∧ l'.inbox.isOpen = l.inbox.isOpen

section
variable {l l' l'' : Listener}

theorem Same.refl (l : Listener) : Same l l := by
  cases l with
  | hearer h => exact .hearer rfl rfl
  | recorder r => exact .recorder ⟨rfl, rfl⟩

theorem Same.trans (first : Same l l') (second : Same l' l'') : Same l l'' := by
  cases first with
  | hearer name fears =>
    cases second with
    | hearer name' fears' => exact .hearer (name'.trans name) (fears'.trans fears)
  | recorder same =>
    cases second with
    | recorder same' =>
      exact .recorder ⟨same'.options.trans same.options, same'.policy.trans same.policy⟩

theorem Same.withInbox (l : Listener) (i : Inbox) : Same l (l.withInbox i) := by
  cases l with
  | hearer h => exact .hearer rfl rfl
  | recorder r => exact .recorder ⟨rfl, rfl⟩

theorem Works.refl (l : Listener) : Works l l := ⟨.refl l, fun going => ⟨going, rfl⟩⟩

theorem Works.trans (first : Works l l') (second : Works l' l'') : Works l l'' := by
  refine ⟨first.same.trans second.same, ?_⟩
  intro going
  obtain ⟨going', opened⟩ := second.opened going
  obtain ⟨still, opened'⟩ := first.opened going'
  exact ⟨still, opened.trans opened'⟩

end
end Listener

open Listener

theorem Hearer.hearAll_works (h : Hearer) (now : Nat) (pending : List Notice) :
    Works (.hearer h) (.hearer (h.hearAll now pending)) := by
  induction pending generalizing h with
  | nil => exact ⟨.hearer rfl rfl, fun going => ⟨going, rfl⟩⟩
  | cons n rest ih =>
    unfold hearAll
    dsimp only
    split
    · split
      · refine ⟨.hearer rfl rfl, ?_⟩
        intro going
        cases going
      · have heard : Works (.hearer h)
            (.hearer { h with pace := h.pace.tail, heard := h.heard ++ [n] }) :=
          ⟨.hearer rfl rfl, fun going => ⟨going, rfl⟩⟩
        exact heard.trans (ih _)
    · exact ⟨.hearer rfl rfl, fun going => ⟨going, rfl⟩⟩

theorem Hearer.work_works (h : Hearer) (now : Nat) : Works (.hearer h) (.hearer (h.work now)) := by
  unfold Hearer.work
  split
  · exact h.hearAll_works now _
  · split
    · exact .refl _
    · split
      · refine ⟨.hearer rfl rfl, ?_⟩
        intro going
        cases going
      · have freed : Works (.hearer h) (.hearer { h with hearing := none }) :=
          ⟨.hearer rfl rfl, fun going => ⟨going, rfl⟩⟩
        exact freed.trans (hearAll_works _ now _)

theorem Recorder.handleAll_works (r : Recorder) (now : Nat) (pending : List Notice)
    (ledger : Ledger) : Works (.recorder r) (.recorder (r.handleAll now pending ledger).1) := by
  induction pending generalizing ledger with
  | nil => exact ⟨.recorder ⟨rfl, rfl⟩, fun going => ⟨going, rfl⟩⟩
  | cons n rest ih =>
    have next (ledger : Ledger) : Works (Listener.recorder r) (Listener.recorder
        (if n.isLast then ({ r with inbox := .closed, isOver := true }, ledger)
          else r.handleAll now rest ledger).1) := by
      split
      · refine ⟨.recorder ⟨rfl, rfl⟩, ?_⟩
        intro going
        cases going
      · exact ih ledger
    unfold handleAll
    dsimp only
    split
    · exact next ledger
    · split
      · exact next _
      · exact ⟨.recorder ⟨rfl, rfl⟩, fun going => ⟨going, rfl⟩⟩

namespace Listener

theorem works_work (l : Listener) (now : Nat) (ledger : Ledger) : Works l (l.work now ledger).1 := by
  cases l with
  | hearer h => exact h.work_works now
  | recorder r =>
    have freed : Works (.recorder r) (.recorder { r with writing := none }) :=
      ⟨.recorder ⟨rfl, rfl⟩, fun going => ⟨going, rfl⟩⟩
    simp only [work, Recorder.work]
    split
    · exact r.handleAll_works now _ ledger
    · split
      · exact .refl _
      · split
        · exact ⟨.recorder ⟨rfl, rfl⟩, fun going => ⟨going, rfl⟩⟩
        · split
          · refine ⟨.recorder ⟨rfl, rfl⟩, ?_⟩
            intro going
            cases going
          · exact freed.trans (Recorder.handleAll_works _ now _ _)

/-! ### Slow work -/

section
variable {l : Listener}

def taken (l : Listener) (most : Nat) : Listener :=
  l.withInbox { l.inbox with pending := l.inbox.pending.take most }

theorem taken_works (l : Listener) (most : Nat) : Works l (l.taken most) := by
  refine ⟨.withInbox l _, ?_⟩
  intro going
  exact ⟨by simpa [taken] using going, by simp [taken]⟩

theorem Progress.taken (progress : Progress told l) (most : Nat) :
    ∃ front, told = front ++ l.inbox.pending.drop most ∧ Progress front (l.taken most) := by
  cases progress with
  | @listening handled current going split on shows =>
    refine ⟨handled ++ current.toList ++ l.inbox.pending.take most, ?_, .cut going on shows _ _⟩
    rw [List.append_assoc, List.take_append_drop, split]
  | quit ended closed split on quits shows =>
    have none : l.inbox.pending = [] := by rw [closed]; rfl
    have same : l.taken most = l := by
      rw [Listener.taken, none, List.take_nil, ← none]
      exact withInbox_inbox
    refine ⟨told, by simp [none], ?_⟩
    rw [same]
    exact .quit ended closed split on quits shows

theorem workOn_cases (l : Listener) (most now : Nat) (ledger : Ledger) :
    let worked := ((l.taken most).work now ledger).1
    (worked.isOver = true ∧ (l.workOn most now ledger).1 = worked) ∨
      (worked.isOver = false ∧ (l.workOn most now ledger).1 = worked.withInbox
        { worked.inbox with pending := worked.inbox.pending ++ l.inbox.pending.drop most }) := by
  unfold workOn
  dsimp only
  split
  · rename_i ended
    exact .inl ⟨ended, rfl⟩
  · rename_i going
    exact .inr ⟨by simpa [taken] using going, rfl⟩

theorem works_workOn (l : Listener) (most now : Nat) (ledger : Ledger) :
    Works l (l.workOn most now ledger).1 := by
  have works := (l.taken_works most).trans ((l.taken most).works_work now ledger)
  rcases l.workOn_cases most now ledger with ⟨ended, same⟩ | ⟨going, same⟩
  · rwa [same]
  · rw [same]
    refine works.trans ⟨.withInbox _ _, ?_⟩
    intro _
    exact ⟨going, by simp⟩

theorem Receives.settled (receives : Receives told l) (ended : l.isOver = true) :
    l.inbox = .closed ∧ ∃ handled, l.Shows handled none := by
  cases receives.progress with
  | listening going => simp [ended] at going
  | quit _ closed _ _ _ shows => exact ⟨closed, _, shows⟩

theorem Receives.over_workOn (receives : Receives told l) (ended : l.isOver = true)
    (most now : Nat) (ledger : Ledger) : l.workOn most now ledger = (l, ledger) := by
  obtain ⟨closed, handled, shows⟩ := receives.settled ended
  have nothing : l.inbox.pending.length ≤ most := by simp [closed, Inbox.closed]
  rw [l.workOn_all nothing, work_closed closed shows]

theorem Shows.isReady {handled : List Notice} (shows : l.Shows handled none) (now : Nat) :
    l.isReady now = true := by
  cases shows with
  | heard idle => simp [Listener.isReady, waits?, idle]
  | idle _ idle => simp [Listener.isReady, waits?, idle]

theorem Receives.workOn (receives : Receives told l) (most now : Nat) (ledger : Ledger) :
    Receives told (l.workOn most now ledger).1 := by
  constructor
  · intro going unended
    obtain ⟨still, opened⟩ := (l.works_workOn most now ledger).opened going
    rw [opened]
    exact receives.opens still unended
  · obtain ⟨front, split, taken⟩ := receives.progress.taken most
    have worked := taken.work now ledger
    rcases l.workOn_cases most now ledger with ⟨ended, same⟩ | ⟨going, same⟩
    · rw [same, split]
      exact worked.extend ended _
    · rw [same, split]
      exact worked.append going _ _

end

/-! ### The beginning and the end -/

section
variable {l : Listener}

theorem receives_added {state : RunState} {cause : Option String} {secs : Int64}
    (going : l.isOver = false) (added : l.inbox = .added state cause secs) (shows : l.Shows [] none) :
    Receives (Inbox.added state cause secs).pending l := by
  constructor
  · intro _ unended
    rw [added]
    unfold Inbox.added at unended ⊢
    dsimp only at unended ⊢
    split
    · rename_i ended
      rw [if_pos ended] at unended
      have last := unended ⟨⟨some state, state, cause⟩, secs⟩ (by simp)
      simp [Transition.isLast, ended] at last
    · rfl
  · exact .listening going (by rw [added]; rfl) (by simp) shows

theorem nil_of_endsOnce {before after : List Notice} {n : Notice}
    (ends : EndsOnce (told.map Notice.toTransition)) (split : told = before ++ n :: after)
    (last : n.isLast = true) : after = [] := by
  cases after with
  | nil => rfl
  | cons next rest =>
    have earlier : n.toTransition ∈ (told.map Notice.toTransition).dropLast := by
      simp [split, List.dropLast_append_of_ne_nil]
    simp [ends _ earlier] at last

/-- Of one that fears nothing: it hears all it was told, in order, and is over when it has. -/
theorem Receives.heard {h : Hearer} (receives : Receives told (.hearer h))
    (ends : EndsOnce (told.map Notice.toTransition)) (fearless : h.fears = none) :
    h.heard <+: told ∧
      (h.isOver = true ↔ h.hearing = none ∧ ∃ n ∈ h.heard, n.isLast = true) ∧
      (h.isOver = true → h.heard = told) := by
  cases receives.progress with
  | @listening handled current going split on shows =>
    have going : h.isOver = false := going
    cases shows with
    | heard idle =>
      refine ⟨⟨_, by simpa using split.symm⟩, ?_, ?_⟩
      · simp only [going, Bool.false_eq_true, false_iff]
        rintro ⟨_, n, mem, last⟩
        exact on n mem (by simp [Quits, Hearer.quits, last])
      · simp [going]
    | hearing heard hearing =>
      refine ⟨⟨_, by rw [heard]; exact split.symm⟩, ?_, ?_⟩ <;> simp [going, hearing]
  | @quit before after n ended closed split on quits shows =>
    have whole : h.heard = before ++ [n] ∧ h.hearing = none := by
      generalize same : before ++ [n] = heard at shows
      cases shows with
      | heard idle => exact ⟨rfl, idle⟩
    have last : n.isLast = true := by simpa [Quits, Hearer.quits, fearless] using quits
    obtain rfl := nil_of_endsOnce ends split last
    refine ⟨⟨[], by simp [whole, split]⟩, ?_, ?_⟩
    · exact ⟨fun _ => ⟨whole.2, n, by simp [whole], last⟩, fun _ => ended⟩
    · intro _
      rw [whole.1, split]

end
end Listener
end
end FlowRuntime
