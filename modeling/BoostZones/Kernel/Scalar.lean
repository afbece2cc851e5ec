import BoostZones.Kernel.Entry

/-!
The traversal of the baseline: one sample after the other, in the order of the samples. The
update is added to the sample's scores; then its gradients are written, or its metric is added
to the sum.
-/

namespace BoostZones.Kernel.Scalar

/-- Carries out sample `i` on the buffers in place. -/
def step (job : Job) (p : Progress) (i : Nat) : Except Progress Progress :=
  let ⟨scores, gradients, metric⟩ := p
  let count := job.view.scoreCount
  let stride := job.view.stride
  match window? scores (i * count) count, job.delta? i with
  | some old, some delta =>
    let new := addDelta old delta
    let scores := overwrite scores (i * count) new
    match gradients with
    | some gradients =>
      match (window? gradients (i * stride) stride).bind (job.slot? i new ·) with
      | some slot => .ok ⟨scores, some (overwrite gradients (i * stride) slot), metric⟩
      | none => .error ⟨scores, some gradients, metric⟩
    | none =>
      match job.term? i new with
      | some term => .ok ⟨scores, none, metric + term⟩
      | none => .error ⟨scores, none, metric⟩
  | _, _ => .error ⟨scores, gradients, metric⟩

def traverse : Traversal := fun job =>
  (List.range job.view.sampleCount).foldlM (step job) job.start

end Kernel.Scalar

/-- The kernel of the baseline zone. -/
def Kernel.scalar : Kernel :=
  Kernel.ofTraversal Kernel.Scalar.traverse fun _ => none

end BoostZones
