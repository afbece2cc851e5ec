import BoostZones.Bins
import BoostZones.Handle

/-!
The record of one update call. It crosses to the kernel as plain numbers and buffers; a buffer
may be absent, and a buffer may be longer than the counts say. A kernel writes the scores, the
gradients and the metric, and nothing else.
-/

namespace BoostZones

structure Transfer where
  scoreCount : UInt64
  /-- Bins packed into a word; zero without a feature. -/
  perWord : Int32
  hessianNeeded : Int32
  validation : Int32
  sampleCount : UInt64
  /-- For every bin, what it adds to each score. -/
  update : Option (Array Float)
  updateBins : UInt64
  words : Option (Array UInt64)
  targets : Option (Array Float)
  /-- Absent weights count as one. -/
  weights : Option (Array Float)
  scores : Option (Array Float)
  /-- One gradient for each score, followed by its hessian when hessians are needed. -/
  gradients : Option (Array Float)
  metric : Float

namespace Transfer

/-- The record without buffers that every call starts from. -/
def empty : Transfer where
  scoreCount := 0
  perWord := 0
  hessianNeeded := flag false
  validation := flag false
  sampleCount := 0
  update := none
  updateBins := 0
  words := none
  targets := none
  weights := none
  scores := none
  gradients := none
  metric := 0

/-- The call asks for a metric and not for gradients. -/
def isValidation (t : Transfer) : Bool :=
  isSet t.validation

/-- Hessians are written; a validation call writes none. -/
def wantsHessian (t : Transfer) : Bool :=
  isSet t.hessianNeeded && !t.isValidation

end Transfer
end BoostZones
