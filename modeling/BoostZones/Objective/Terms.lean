import BoostZones.Binary64

/-!
The terms of one sample: gradient, hessian and metric for every kind of objective. The logistic
function and its logarithm are computed from exponentials that cannot overflow.
-/

namespace BoostZones.Objective

/-- The least hessian of a class probability, so that a step can be divided by it. -/
def leastHessian : Float := 1e-16

/-- The logarithm of `1 + y`, also for a `y` that is lost when it is added to one. -/
def logOnePlus (y : Float) : Float :=
  let u := 1 + y
  if u == 1 then y
  else if u.isInf then u
  else u.log * (y / (u - 1))

def sigmoid (x : Float) : Float :=
  if x ≥ 0 then 1 / (1 + (-x).exp)
  else
    let e := x.exp
    e / (1 + e)

/-- The logarithm of `1 + exp x`. -/
def softplus (x : Float) : Float :=
  if x > 0 then x + logOnePlus (-x).exp else logOnePlus x.exp

-------------------------------------------------------------------------------
-- Squares
-------------------------------------------------------------------------------

def squareGradient (score target : Float) : Float :=
  score - target

def squareMetric (score target : Float) : Float :=
  let d := score - target
  d * d

-------------------------------------------------------------------------------
-- Two classes
-------------------------------------------------------------------------------

/-- The hessian that belongs to the probability `p`. -/
def probabilityHessian (p : Float) : Float :=
  larger (p * (1 - p)) leastHessian

def logisticTerms (score target : Float) : Float × Float :=
  let p := sigmoid score
  (p - target, probabilityHessian p)

def logisticMetric (score target : Float) : Float :=
  softplus score - target * score

-------------------------------------------------------------------------------
-- Counts
-------------------------------------------------------------------------------

def countTerms (score target : Float) : Float × Float :=
  let mean := score.exp
  (mean - target, mean)

/-- Twice `t * ln (t / mean) - (t - mean)`, where the product is zero for a target of zero. -/
def countMetric (score target : Float) : Float :=
  let mean := score.exp
  let product := if target > 0 then target * (target.log - score) else 0
  2 * (product - (target - mean))

-------------------------------------------------------------------------------
-- Many classes
-------------------------------------------------------------------------------

/-- The logarithm of the sum of the exponentials, taken relative to the greatest score. -/
def logSumExp (scores : List Float) : Float :=
  let greatest := scores.foldl larger (-1 / 0)
  greatest + ((scores.map fun s => (s - greatest).exp).foldl (· + ·) (-0.0)).log

/-- The probability of a class with score `s`, given the logarithm of the sum. -/
def classProbability (total s : Float) : Float :=
  (s - total).exp

/-- Gradients of all classes; with `hessian`, each is followed by its hessian. -/
def classTerms (scores : List Float) (target : Nat) (hessian : Bool) : List Float :=
  let total := logSumExp scores
  scores.zipIdx.flatMap fun (s, k) =>
    let p := classProbability total s
    let gradient := p - if k = target then 1 else 0
    if hessian then [gradient, probabilityHessian p] else [gradient]

/-- The negative logarithm of the target's probability, if there is such a class. -/
def classMetric? (scores : List Float) (target : Nat) : Option Float :=
  scores[target]?.map fun s => logSumExp scores - s

theorem length_classTerms (scores : List Float) (target : Nat) (hessian : Bool)
    : (classTerms scores target hessian).length
      = scores.length * if hessian then 2 else 1 := by
  have steps (index : Nat) (total : Float) (rest : List Float) :
      ((rest.zipIdx index).flatMap fun (s, k) =>
          let p := classProbability total s
          let gradient := p - if k = target then 1 else 0
          if hessian then [gradient, probabilityHessian p] else [gradient]).length
        = rest.length * if hessian then 2 else 1 := by
    induction rest generalizing index with
    | nil => simp
    | cons s rest ih =>
      simp only [List.zipIdx_cons, List.flatMap_cons, List.length_append, ih]
      cases hessian
      · simp only [List.length_cons, List.length_nil, reduceIte, Bool.false_eq_true]
        omega
      · simp only [List.length_cons, List.length_nil, reduceIte]
        omega
  exact steps 0 (logSumExp scores) scores

end BoostZones.Objective
