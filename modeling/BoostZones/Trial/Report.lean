import BoostZones.Selector
import BoostZones.Trial

/-!
Reports of the trial. Every zone that can work runs the trial, and its outcome is compared with
that of the baseline: scores and gradients entry by entry, the metric relative to its size.
-/

namespace BoostZones

/-- How far a zone is from the baseline. -/
structure Report where
  zone : Zone
  scoreDifference : Float
  gradientDifference : Float
  metricSum : Float
  /-- Relative to the metric of the baseline. -/
  metricDifference : Float

namespace Report

/-- How far the metric of a zone may be from the baseline's. -/
def tolerance : Float := 1e-12

/-- The least positive normal number, which stands in for a metric of zero. -/
def leastMetric : Float := 2.2250738585072014e-308

/-- Scores and gradients are the same, and the metric is within the tolerance. -/
def isConsistent (r : Report) : Bool :=
  r.scoreDifference == 0 && r.gradientDifference == 0 && r.metricDifference ≤ tolerance

def divergence (r : Report) : String :=
  "score " ++ Decimal.scientific r.scoreDifference
    ++ ", gradiente " ++ Decimal.scientific r.gradientDifference
    ++ ", métrica relativa " ++ Decimal.scientific r.metricDifference

/-- A zone that is not consistent with the baseline is an error. -/
def ensureConsistent (r : Report) : Except RunError Unit :=
  if r.isConsistent then .ok () else .error (.divergence r.zone r.divergence)

/-- The greatest distance between entries at the same place; entries whose distance is no
number are passed over. -/
def greatestDifference (a b : Array Float) : Float :=
  ((a.toList.zip b.toList).map fun (x, y) => (x - y).abs).foldl larger 0

/-- Compares the outcome of a zone with the baseline's. -/
def compare (zone : Zone) (outcome baseline : Outcome) : Report where
  zone
  scoreDifference :=
    larger (greatestDifference outcome.scores baseline.scores)
      (greatestDifference outcome.validationScores baseline.validationScores)
  gradientDifference := greatestDifference outcome.gradients baseline.gradients
  metricSum := outcome.metricSum
  metricDifference :=
    (outcome.metricSum - baseline.metricSum).abs / larger baseline.metricSum.abs leastMetric

end Report

namespace Trial

/-- The report of a zone, given the outcome of the baseline. -/
def report (t : Trial) (r : Registry) (d : Descriptor) (baseline : Outcome) (zone : Zone)
    : Except Failure Report :=
  if zone.isBaseline then .ok (.compare zone baseline baseline)
  else do
    let binding ← (bind r zone d).mapError fun e => .error (.zone e)
    let outcome ← t.attempt binding
    return .compare zone outcome baseline

/-- The reports of all zones that can work, each compared with the baseline. -/
def reports (t : Trial) (r : Registry) (d : Descriptor) : Except Failure (List Report) := do
  let binding ← (bind r Zone.baseline d).mapError fun e => .error (.zone e)
  let baseline ← t.attempt binding
  r.availableZones.mapM (t.report r d baseline)

/-- Makes the trial of an objective and reports on the zones of the registry. -/
def crossCheck (r : Registry) (o : Objective) (samples : Nat)
    : Except Failure (List Report) := do
  let trial ← make o samples
  let descriptor ← o.descriptor.mapError fun e => .error (.objective e)
  trial.reports r descriptor

end Trial
end BoostZones
