import BoostZones.Objective.Sample
import BoostZones.View

/-!
One accepted update call. A job is what a kernel works on once the handle, the record and the
targets have been accepted. A traversal carries a job out; one that fails on the way still
tells how far the buffers have been changed.
-/

namespace BoostZones.Kernel

structure Job where
  objective : Objective
  /-- What every gradient and hessian is multiplied by. -/
  gradientConstant : Float
  view : View

/-- The buffers that a kernel writes. -/
structure Progress where
  scores : Array Float
  gradients : Option (Array Float)
  metric : Float

/-- Carries a job out. The error holds the buffers as the failure left them. -/
abbrev Traversal := Job → Except Progress Progress

namespace Job

/-- Accepts a call: first the handle, then the record, then the targets. -/
def accept (h : Handle) (t : Transfer) : Except ZoneError Job := do
  let objective ← (Objective.ofHandle h).mapError ObjectiveError.toZoneError
  let view ← t.view h
  (objective.checkTargets view.targets.toList).mapError ObjectiveError.toZoneError
  return { objective, gradientConstant := h.gradientConstant, view }

/-- The buffers before anything is written. -/
def start (job : Job) : Progress where
  scores := job.view.scores
  gradients := job.view.gradients
  metric := 0

/-- What the update adds to the scores of sample `i`. -/
def delta? (job : Job) (i : Nat) : Option (List Float) :=
  (job.view.bins.bin? i).bind job.view.updateOfBin?

/-- The gradients of sample `i` with these scores, written into its slot. -/
def slot? (job : Job) (i : Nat) (scores slot : List Float) : Option (List Float) :=
  job.view.targets[i]?.bind fun target =>
    job.objective.writeGradients? scores target slot job.view.hessian job.gradientConstant

/-- The metric of sample `i` with these scores, times its weight. -/
def term? (job : Job) (i : Nat) (scores : List Float) : Option Float := do
  let target ← job.view.targets[i]?
  let weight ← job.view.weight? i
  let metric ← job.objective.sampleMetric? scores target
  return weight * metric

end Job

/-- The scores after the update is added. -/
def addDelta (scores delta : List Float) : List Float :=
  List.zipWith (· + ·) scores delta

end BoostZones.Kernel
