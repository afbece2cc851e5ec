import BoostZones.Sequence.Window
import BoostZones.Text.Numeral
import BoostZones.Transfer

/-!
The checked form of an update call. Before a kernel touches a buffer, the record's counts are
checked against the handle, against each other and against the buffers that are present; what
comes out has every buffer that the call needs, cut to the length that the counts say.
-/

namespace BoostZones

structure View where
  scoreCount : Nat
  sampleCount : Nat
  hessian : Bool
  validation : Bool
  update : Array Float
  updateBins : Nat
  bins : PackedBins
  targets : Array Float
  weights : Option (Array Float)
  scores : Array Float
  /-- Absent in validation, and when there is no sample. -/
  gradients : Option (Array Float)

namespace View

/-- Numbers written for one sample: a gradient for each score, and a hessian if wanted. -/
def strideOf (scoreCount : Nat) (hessian : Bool) : Nat :=
  scoreCount * if hessian then 2 else 1

def stride (v : View) : Nat :=
  strideOf v.scoreCount v.hessian

def updateLength (v : View) : Nat :=
  v.updateBins * v.scoreCount

/-- The weight of sample `i`: one without weights. -/
def weight? (v : View) (i : Nat) : Option Float :=
  match v.weights with
  | none => some 1
  | some weights => weights[i]?

/-- What the update adds to the scores of a sample in this bin. -/
def updateOfBin? (v : View) (bin : Nat) : Option (List Float) :=
  window? v.update (bin * v.scoreCount) v.scoreCount

end View

namespace Transfer

/-- The products of counts that have to fit a word, in the order in which they are checked. -/
def products (t : Transfer) : List (Nat × Nat) :=
  let scores := t.scoreCount.toNat
  let samples := t.sampleCount.toNat
  [(t.updateBins.toNat, scores), (samples, scores),
    (samples * scores, if t.wantsHessian then 2 else 1)]

/-- The bins of the samples. Without a sample no word is looked at. -/
def bins (t : Transfer) : PackedBins :=
  let perWord := t.perWord.toInt.toNat
  let samples := t.sampleCount.toNat
  if perWord = 0 ∨ samples = 0 then .none
  else ⟨(t.words.getD #[]).extract 0 (wordCount samples perWord), perWord⟩

/-- The first thing wrong with a record, told as the kernel tells it. -/
def objection? (h : Handle) (t : Transfer) : Option String :=
  if t.scoreCount = 0 then some "c_scores deve ser >= 1"
  else if t.scoreCount ≠ h.scoreCount then
    some ("c_scores " ++ Text.writeCount t.scoreCount ++ " difere do objetivo ligado ("
      ++ Text.writeCount h.scoreCount ++ ")")
  else if t.perWord < 0 ∨ 64 < t.perWord then
    some ("c_pack inválido: " ++ toString t.perWord.toInt)
  else if t.update.isNone ∨ t.updateBins = 0 then some "update_tensor_scores ausente"
  else
    match t.products.find? fun (a, b) => Text.wordLimit ≤ a * b with
    | some (a, b) => some ("overflow em " ++ toString a ++ " * " ++ toString b)
    | none =>
      if 0 < t.sampleCount ∧ t.scores.isNone then some "sample_scores ausente"
      else if 0 < t.sampleCount ∧ t.targets.isNone then some "targets ausente"
      else if 0 < t.sampleCount ∧ !t.isValidation ∧ t.gradients.isNone then
        some "gradients_and_hessians ausente em treino"
      else if 0 < t.sampleCount ∧ 0 < t.perWord ∧ t.words.isNone then
        some "packed ausente com c_pack > 0"
      else
        let greatest := (t.bins.maxBin? t.sampleCount.toNat).getD 0
        if t.updateBins.toNat ≤ greatest then
          some ("bin " ++ toString greatest ++ " fora do tensor de update ("
            ++ Text.writeCount t.updateBins ++ " bins)")
        else none

/-- The first `length` entries of a buffer; none of an absent one. -/
def cut (buffer : Option (Array Float)) (length : Nat) : Array Float :=
  (buffer.getD #[]).extract 0 length

/-- The buffers of a record, cut to the lengths that its counts say. -/
def toView (t : Transfer) : View :=
  let scoreCount := t.scoreCount.toNat
  let sampleCount := t.sampleCount.toNat
  let sampled := decide (0 < sampleCount)
  {
    scoreCount
    sampleCount
    hessian := t.wantsHessian
    validation := t.isValidation
    update := cut t.update (t.updateBins.toNat * scoreCount)
    updateBins := t.updateBins.toNat
    bins := t.bins
    targets := cut t.targets sampleCount
    weights := if sampled then t.weights.map fun w => w.extract 0 sampleCount else none
    scores := cut t.scores (sampleCount * scoreCount)
    gradients :=
      if sampled && !t.isValidation then
        some (cut t.gradients (sampleCount * View.strideOf scoreCount t.wantsHessian))
      else none
  }

/-- Checks a record against a handle. -/
def view (h : Handle) (t : Transfer) : Except ZoneError View :=
  match t.objection? h with
  | some reason => .error (.invalidParameter reason)
  | none => .ok t.toView

/-- The record with new scores and gradients written over the old ones. -/
def store (t : Transfer) (scores : Array Float) (gradients : Option (Array Float))
    : Transfer :=
  { t with
    scores := t.scores.map (overwrite · 0 scores.toList)
    gradients :=
      match gradients with
      | some g => t.gradients.map (overwrite · 0 g.toList)
      | none => t.gradients }

theorem view_eq_ok_iff (h : Handle) (t : Transfer) (v : View)
    : t.view h = .ok v ↔ t.objection? h = none ∧ t.toView = v := by
  unfold view
  cases t.objection? h <;> simp

end Transfer
end BoostZones
