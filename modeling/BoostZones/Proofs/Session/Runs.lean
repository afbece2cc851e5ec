import BoostZones.Proofs.Buffers.Acceptance

/-! Sessions over any row of calls. All that a call can change is the number of rounds, and nothing
that a call comes to depends on that number; so a session answers every call as if it were the
first one, and counts the rounds of training that were carried out.
-/

namespace BoostZones.Session

-------------------------------------------------------------------------------
-- Calls
-------------------------------------------------------------------------------

/-- What a session can be asked to do. -/
inductive Call where
  | trainRound (b : Buffers)
  | validate (b : Buffers)
  | finish (sum weight : Float)
  | checkTargets (targets : List Float)

/-- What a call gives back: its result, and the buffers as it leaves them. -/
inductive Answer where
  | trainRound (after : Buffers) (result : Except RunError Unit)
  | validate (after : Buffers) (result : Except RunError Float)
  | finish (result : Except RunError Float)
  | checkTargets (result : Except RunError Unit)

/-- The answer is that of a round of training which was carried out. -/
def Answer.isRound : Answer → Bool
  | .trainRound _ (.ok ()) => true
  | _ => false

/-- The session after a call, and the answer. -/
def perform (s : Session) : Call → Session × Answer
  | .trainRound b =>
    let (next, after, result) := s.trainRound b
    (next, .trainRound after result)
  | .validate b =>
    let (after, result) := s.validate b
    (s, .validate after result)
  | .finish sum weight => (s, .finish (s.finish sum weight))
  | .checkTargets targets => (s, .checkTargets (s.checkTargets targets))

/-- The session after a row of calls, and the answers. -/
def run (s : Session) : List Call → Session × List Answer
  | [] => (s, [])
  | call :: rest =>
    let (next, answer) := s.perform call
    let (last, answers) := next.run rest
    (last, answer :: answers)

/-- The session with another number of rounds. -/
def withRounds (s : Session) (rounds : Nat) : Session :=
  { s with rounds }

-------------------------------------------------------------------------------
-- One call
-------------------------------------------------------------------------------

/-- A call adds a round or nothing, and its answer does not depend on the rounds before. -/
theorem perform_withRounds (s : Session) (rounds : Nat) (call : Call)
    : (s.withRounds rounds).perform call
      = (s.withRounds (if (s.perform call).2.isRound then rounds + 1 else rounds),
          (s.perform call).2) := by
  cases call with
  | trainRound b =>
      unfold perform trainRound
      dsimp only
      split
      · rfl
      · simp only [withRounds]
        cases (s.binding.applyUpdate b).2 <;> rfl
  | validate b => rfl
  | finish sum weight => rfl
  | checkTargets targets => rfl

/-- A round of training that is not carried out leaves the buffers as they were. -/
theorem eq_of_trainRound_error {s : Session} (whole : s.binding.update.AllOrNothing)
    {b after : Buffers} {reason : RunError}
    (failed : (s.perform (.trainRound b)).2 = .trainRound after (.error reason))
    : after = b := by
  unfold perform trainRound at failed
  dsimp only at failed
  split at failed
  · cases failed
    rfl
  · cases answer : (s.binding.applyUpdate b).2 with
    | ok metric =>
        simp only [answer] at failed
        cases failed
    | error refused =>
        simp only [answer] at failed
        cases failed
        exact Binding.applyUpdate_of_allOrNothing whole answer

-------------------------------------------------------------------------------
-- Any row of calls
-------------------------------------------------------------------------------

/-- Every call of a row is answered as the first one would be, by induction on the calls, each of
which starts from other rounds and otherwise from the same session.
-/
theorem run_withRounds (s : Session) (rounds : Nat) (calls : List Call)
    : (s.withRounds rounds).run calls
      = (s.withRounds
            (rounds + (calls.map fun call => (s.perform call).2).countP Answer.isRound),
          calls.map fun call => (s.perform call).2) := by
  induction calls generalizing rounds with
  | nil => rfl
  | cons call rest ih =>
      simp only [run, perform_withRounds, ih, List.map_cons, List.countP_cons]
      cases (s.perform call).2.isRound with
      | true => simp only [if_true, Nat.add_assoc, Nat.add_comm 1]
      | false => simp only [Bool.false_eq_true, if_false, Nat.add_zero]

/-- A session that was opened counts the rounds of training that are carried out, whatever it is
asked to do; its zone, its objective and whether it can finish metrics stay, and it answers every
call as it did when it was new. A round that is not carried out leaves the buffers as they were:
there is no partial success in the zones' own entries.
-/
theorem run_counts_rounds {r : Registry} {zone : Zone} {o : Objective} {s : Session}
    (created : create r zone o = .ok s) (calls : List Call)
    : (s.run calls).1.rounds = (s.run calls).2.countP Answer.isRound
      ∧ (s.run calls).1.zone = zone
      ∧ (s.run calls).1.objective = o
      ∧ (s.run calls).1.canFinish = s.canFinish
      ∧ (s.run calls).2 = (calls.map fun call => (s.perform call).2)
      ∧ (s.binding.update.AllOrNothing
        → ∀ (i : Nat) (b after : Buffers) (reason : RunError),
            calls[i]? = some (.trainRound b)
            → (s.run calls).2[i]? = some (.trainRound after (.error reason))
            → after = b)
      ∧ ∀ own device,
          s.binding.update = Zone.updateOn own device → s.binding.update.AllOrNothing := by
  obtain ⟨d, -, -, objective, -, rounds⟩ := create_eq_ok_iff.1 created
  have new : s.withRounds 0 = s := by
    unfold withRounds
    rw [← rounds]
  have ran := s.run_withRounds 0 calls
  rw [new, Nat.zero_add] at ran
  rw [ran]
  have there : s.zone = zone := zone_of_create created
  refine ⟨rfl, there, objective, rfl, rfl, ?_, ?_⟩
  · intro whole i b after reason asked answered
    rw [List.getElem?_map, asked] at answered
    exact eq_of_trainRound_error whole (Option.some.inj answered)
  · intro own device same
    rw [same]
    exact own.allOrNothing_updateOn device

/-- A call of every kind: a round of training on buffers for validation, a round that is carried
out, and a validation that has no baseline to finish its metric.
-/
def mixedCalls : List Call := [
  .trainRound oneSample,
  .trainRound .twoSamples,
  .validate oneSample,
  .finish 10 0,
  .checkTargets [3, 5]]

theorem ofLanes_counts_one_round
    : create (Registry.empty.add Zone.simd.exports) .simd .rmse = .ok ofLanes
      ∧ (ofLanes.run mixedCalls).1.rounds = 1
      ∧ (ofLanes.run mixedCalls).1.zone = .simd
      ∧ (ofLanes.run mixedCalls).1.objective = .rmse
      ∧ (ofLanes.run mixedCalls).1.canFinish = false
      ∧ (ofLanes.run mixedCalls).2
        = (mixedCalls.map fun call => (ofLanes.perform call).2)
      ∧ ∀ (after : Buffers) (reason : RunError),
          (ofLanes.run mixedCalls).2[0]? = some (.trainRound after (.error reason))
          → after = oneSample := by
  obtain ⟨counted, there, objective, finishes, answers, kept, own⟩ :=
    run_counts_rounds create_ofLanes mixedCalls
  refine ⟨create_ofLanes, counted.trans ?_, there, objective, finishes, answers, ?_⟩
  · decide +kernel
  · intro after reason
    exact kept (own .simd .host rfl) 0 oneSample after reason rfl

end BoostZones.Session
