import BoostZones.Buffers
import BoostZones.Objective.Targets
import BoostZones.Session.Error

/-!
The trial problem: one round on made-up samples, the same on every machine. It is large enough
to fill lanes and blocks, it packs its bins, and its targets are in the objective's domain.
-/

namespace BoostZones

structure Trial where
  objective : Objective
  samples : Nat
  update : Array Float
  packed : Array UInt64
  targets : Array Float
  weights : Array Float
  scores : Array Float

/-- What a zone makes of the trial. -/
structure Outcome where
  scores : Array Float
  gradients : Array Float
  validationScores : Array Float
  metricSum : Float

namespace Trial

/-- Why there is no trial or no outcome. -/
inductive Failure where
  /-- The samples are spread over no classes at all, or no memory can hold the trial. -/
  | fault
  | error (reason : RunError)

/-- Bins of the trial's feature. -/
def binCount : Nat := 16

/-- Bins of the trial packed into a word. -/
def perWord : Nat := 16

/-- The least number of entries that no memory can hold: of eight bytes each, they have more
bytes than a signed word can count. -/
def entryLimit : Nat := Nat.pow 2 60

/-- `count` entries computed from their places. -/
def tabulate (count : Nat) (entry : Float → Float) : Array Float :=
  ((List.range count).map fun i => entry (UInt64.ofNat i).toFloat).toArray

/-- The target of sample `i`, unless there are no classes to choose from. -/
def target? (o : Objective) (i : Nat) : Option Float :=
  match o with
  | .rmse => some (((UInt64.ofNat i).toFloat * 0.37).sin * 3)
  | .logLoss classes =>
    if classes = 0 then none else some (UInt64.ofNat (i * 7919) % classes).toFloat
  | .poissonDeviance => some (UInt64.ofNat (i % 5)).toFloat

/-- The trial of an objective with this many samples. -/
def make (o : Objective) (samples : Nat) : Except Failure Trial := do
  let scoreCount := o.scoreCount.toNat
  if entryLimit ≤ binCount * scoreCount ∨ entryLimit ≤ samples then throw .fault
  let bins := (List.range samples).map fun i => (i * 31 + 7) % binCount
  let packed ← (packBins bins perWord).mapError fun e => .error (.zone e)
  match (List.range samples).mapM (target? o) with
  | none => throw .fault
  | some targets =>
    (o.checkTargets targets).mapError fun e => .error (.objective e)
    if entryLimit ≤ samples * scoreCount then throw .fault
    return {
      objective := o
      samples
      update := tabulate (binCount * scoreCount) fun j => (j * 0.618).sin * 0.1
      packed
      targets := targets.toArray
      weights :=
        ((List.range samples).map fun i => 1 + (UInt64.ofNat (i % 3)).toFloat * 0.5).toArray
      scores := tabulate (samples * scoreCount) fun j => (j * 0.13).cos * 0.1
    }

/-- The buffers of the training call. -/
def training (t : Trial) : Buffers where
  update := t.update
  packed := some (t.packed, perWord)
  targets := t.targets
  weights := none
  scores := t.scores
  gradients := some (Array.replicate (t.samples * t.objective.scoreCount.toNat * 2) 0)
  hessianNeeded := true

/-- The buffers of the validation call. -/
def validation (t : Trial) : Buffers where
  update := t.update
  packed := some (t.packed, perWord)
  targets := t.targets
  weights := some t.weights
  scores := t.scores
  gradients := none
  hessianNeeded := false

/-- The calls of a run: training with hessians, then validation with weights. -/
def run (t : Trial) (b : Binding) : Except RunError Outcome := do
  let (trained, answer) := b.applyUpdate t.training
  let _ ← answer.mapError .zone
  let (validated, answer) := b.applyUpdate t.validation
  let metricSum ← answer.mapError .zone
  return {
    scores := trained.scores
    gradients := trained.gradients.getD #[]
    validationScores := validated.scores
    metricSum
  }

/-- No memory can hold the gradients of the trial with their hessians. -/
def overflows (t : Trial) : Bool :=
  entryLimit ≤ t.samples * t.objective.scoreCount.toNat * 2

/-- Runs the trial on a binding, unless there is no room for the gradients. -/
def attempt (t : Trial) (b : Binding) : Except Failure Outcome := do
  if t.overflows then throw .fault
  (t.run b).mapError .error

end Trial
end BoostZones
