import BoostZones.Objective.Targets
import BoostZones.Objective.Terms

/-!
What an objective says of one sample, for one score or for many. There is no answer when the
sample lacks the score that its target names, or when the place for the gradients is too short.
-/

namespace BoostZones.Objective

/-- The metric of a sample with one score. -/
def metric (o : Objective) (score target : Float) : Float :=
  match o with
  | .rmse => squareMetric score target
  | .logLoss _ => logisticMetric score target
  | .poissonDeviance => countMetric score target

/-- Gradient and hessian of a sample with one score. -/
def gradientHessian (o : Objective) (score target : Float) : Float × Float :=
  match o with
  | .rmse => (squareGradient score target, 1)
  | .logLoss _ => logisticTerms score target
  | .poissonDeviance => countTerms score target

/-- The metric of a sample. -/
def sampleMetric? (o : Objective) (scores : List Float) (target : Float) : Option Float :=
  if o.isMulticlass then classMetric? scores (classIndex target)
  else scores.head?.map (o.metric · target)

/-- The gradients of a sample; with `hessian`, each is followed by its hessian. -/
def gradientTerms? (o : Objective) (scores : List Float) (target : Float) (hessian : Bool)
    : Option (List Float) :=
  if o.isMulticlass then
    let index := classIndex target
    if index < scores.length then some (classTerms scores index hessian) else none
  else
    scores.head?.map fun score =>
      let (gradient, h) := o.gradientHessian score target
      if hessian then [gradient, h] else [gradient]

/-- The terms laid over the beginning of a slot, if the slot is long enough. -/
def overlay? (terms slot : List Float) : Option (List Float) :=
  if terms.length ≤ slot.length then some (terms ++ slot.drop terms.length) else none

/-- Every entry multiplied by the constant, unless the constant is one. -/
def scaleBy (constant : Float) (slot : List Float) : List Float :=
  if constant != 1 then slot.map (· * constant) else slot

/-- The slot of a sample after its gradients are written. -/
def writeGradients? (o : Objective) (scores : List Float) (target : Float) (slot : List Float)
    (hessian : Bool) (constant : Float)
    : Option (List Float) :=
  ((o.gradientTerms? scores target hessian).bind (overlay? · slot)).map (scaleBy constant)

@[simp] theorem length_scaleBy (constant : Float) (slot : List Float)
    : (scaleBy constant slot).length = slot.length := by
  unfold scaleBy
  split <;> simp

theorem length_of_overlay? {terms slot written : List Float}
    (h : overlay? terms slot = some written) : written.length = slot.length := by
  unfold overlay? at h
  split at h
  · next fits =>
    cases h
    simp
    omega
  · cases h

/-- Terms that fill the slot replace it. -/
theorem overlay?_of_length_eq {terms slot : List Float} (h : terms.length = slot.length)
    : overlay? terms slot = some terms := by
  simp [overlay?, h]

end BoostZones.Objective
