import BoostZones.Binding

/-!
The buffers of a caller. Their lengths are checked against the objective before anything crosses
to the zone, so a call with buffers of the wrong shape changes nothing. What the zone has
written is read back from the record, and its answer becomes a metric or an error.
-/

namespace BoostZones

structure Buffers where
  /-- For every bin, what it adds to each score. -/
  update : Array Float
  /-- Packed bins, and how many are in a word; absent without a feature. -/
  packed : Option (Array UInt64 × Nat)
  targets : Array Float
  weights : Option (Array Float)
  scores : Array Float
  /-- Where the gradients go; absent in validation. -/
  gradients : Option (Array Float)
  hessianNeeded : Bool

namespace Buffers

/-- The call asks for a metric and not for gradients. -/
def isValidation (b : Buffers) : Bool :=
  b.gradients.isNone

/-- Tells that a buffer does not have the expected number of items. -/
def lengthReason (buffer : String) (length : Nat) (items : String) (expected : Nat) : String :=
  buffer ++ " tem " ++ toString length ++ " " ++ items ++ ", esperado " ++ toString expected

/-- What is wrong with the length of a buffer, if anything is. -/
def lengthObjection? (buffer : String) (length : Nat) (items : String) (expected : Nat)
    : Option String :=
  if length = expected then none else some (lengthReason buffer length items expected)

/-- What is wrong with the packed bins of `samples` samples, if anything is. -/
def packedObjection? (samples : Nat) (words : Array UInt64) (perWord : Nat) : Option String :=
  if perWord = 0 ∨ maxPerWord < perWord then some ("c_pack inválido: " ++ toString perWord)
  else lengthObjection? "packed" words.size "palavras" (wordCount samples perWord)

/-- A length that is computed as a word: what no word holds is cut off. -/
def wordLength (length : Nat) : Nat :=
  length % Text.wordLimit

/-- The first thing wrong with the shape of the buffers. -/
def objection? (b : Buffers) (scoreCount : Nat) : Option String :=
  let samples := b.targets.size
  let checks : List (Option String) := [
    if b.update.isEmpty ∨ b.update.size % scoreCount ≠ 0 then
      some ("update com " ++ toString b.update.size ++ " valores não é múltiplo de c_scores="
        ++ toString scoreCount)
    else none,
    lengthObjection? "sample_scores" b.scores.size "valores"
      (wordLength (samples * scoreCount)),
    b.weights.bind fun w => lengthObjection? "weights" w.size "valores" samples,
    b.gradients.bind fun g =>
      lengthObjection? "gradients_and_hessians" g.size "valores"
        (wordLength (samples * View.strideOf scoreCount b.hessianNeeded)),
    b.packed.bind fun (words, perWord) => packedObjection? samples words perWord]
  checks.findSome? id

/-- The record that carries the buffers across. -/
def toTransfer (b : Buffers) (scoreCount : UInt64) : Transfer where
  scoreCount
  perWord := Int32.ofNat (b.packed.elim 0 (·.2))
  hessianNeeded := flag (b.hessianNeeded && !b.isValidation)
  validation := flag b.isValidation
  sampleCount := UInt64.ofNat b.targets.size
  update := some b.update
  updateBins := UInt64.ofNat (b.update.size / scoreCount.toNat)
  words := b.packed.map (·.1)
  targets := some b.targets
  weights := b.weights
  scores := some b.scores
  gradients := b.gradients
  metric := 0

/-- The buffers with what a zone has written to the record. -/
def readBack (b : Buffers) (record : Option Transfer) : Buffers :=
  { b with
    scores := (record.bind (·.scores)).getD b.scores
    gradients := b.gradients.map fun old => (record.bind (·.gradients)).getD old }

end Buffers

/-- Sends buffers through the zone of a binding. The buffers come back as they are after the
call; the value is the metric of a validation call. -/
def Binding.applyUpdate (b : Binding) (buffers : Buffers)
    : Buffers × Except ZoneError Float :=
  match buffers.objection? b.handle.scoreCount.toNat with
  | some reason => (buffers, .error (.invalidParameter reason))
  | none =>
    let (code, record) := b.call (some (buffers.toTransfer b.handle.scoreCount))
    let metric := record.elim 0 (·.metric)
    (buffers.readBack record, (ZoneError.check code b.zone).map fun _ => metric)

end BoostZones
