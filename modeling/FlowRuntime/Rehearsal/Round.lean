import FlowRuntime.Rehearsal.Part

/-!
Playing a step to its end. In each round the parts are seen to first, and then those
who were called have their turns; time passes when nobody is left to go on. No step
may take longer than an hour; what is still going on then is left where it is. After
the step, the listeners finish what they have to do.
-/
namespace FlowRuntime.Rehearsal

def deadline : Nat := 3600000

namespace Scene

/-- So many have their turns before the parts are seen to again. -/
def turnsInRound : Nat := 61

/-- More rounds than any rehearsal could take. -/
def roundsAhead : Nat := 1000000000000000000

def isBusy (s : Scene) : Bool := !s.stirred.isEmpty || !s.called.isEmpty

def playRounds : (rounds : Nat) → Part → Scene → Part × Scene
  | 0, p, s => (p, s)
  | rounds + 1, p, s =>
    let (p, s) := p.seeTo p.depth s
    if p.result?.isSome || deadline ≤ s.now then (p, s)
    else
      let s := s.workRound turnsInRound
      if s.isBusy then playRounds rounds p s
      else playRounds rounds p (s.advance (min deadline (s.nextCue?.getD deadline)))

def settleRounds : (rounds : Nat) → Scene → Scene
  | 0, s => s
  | rounds + 1, s =>
    let s := s.workRound turnsInRound
    if s.isBusy then settleRounds rounds s
    else match s.nextCue? with
      | none => s
      | some time => settleRounds rounds (s.advance time)

/-- What was found and when, if it was found before the deadline. -/
def play (s : Scene) (p : Part) : Option (Nat × Finding) × Scene :=
  let (p, s) := playRounds roundsAhead p s
  (p.result?, s)

def settle (s : Scene) : Scene := settleRounds roundsAhead s.leave

end Scene
end FlowRuntime.Rehearsal
