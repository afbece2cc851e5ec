import BoostZones.Objective.Name
import BoostZones.Status

/-!
The objective as a kernel sees it. A descriptor tells what there is to know about an objective;
bound to a zone it becomes a handle of plain numbers, and a kernel recovers the objective from
the numbers. No handle stands for two objectives, and one whose numbers disagree is refused.
-/

namespace BoostZones

/-- What there is to know about an objective. -/
structure Descriptor where
  objective : UInt32
  link : Int32
  linkParameter : Float
  scoreCount : UInt64
  maximizes : Bool
  hasConstantHessian : Bool
  gradientConstant : Float

/-- A descriptor bound to a zone, in plain numbers. -/
structure Handle where
  zone : UInt32
  objective : UInt32
  link : Int32
  linkParameter : Float
  scoreCount : UInt64
  maximizes : Int32
  constantHessian : Int32
  gradientConstant : Float

def Descriptor.toHandle (d : Descriptor) (zone : Zone) : Handle where
  zone := zone.id
  objective := d.objective
  link := d.link
  linkParameter := d.linkParameter
  scoreCount := d.scoreCount
  maximizes := flag d.maximizes
  constantHessian := flag d.hasConstantHessian
  gradientConstant := d.gradientConstant

namespace Objective

/-- The descriptor of an objective that can be used. -/
def descriptor (o : Objective) : Except ObjectiveError Descriptor := do
  o.validate
  return {
    objective := o.code
    link := o.link.code
    linkParameter := 0
    scoreCount := o.scoreCount
    maximizes := false
    hasConstantHessian := o.hasConstantHessian
    gradientConstant := 1
  }

/-- The objective with a code and a number of scores. -/
def ofCode? (code : UInt32) (scores : UInt64) : Option Objective :=
  if code = 1 ∧ scores = 1 then some .rmse
  else if code = 2 ∧ scores = 1 then some binary
  else if code = 2 ∧ 2 < scores then some (.logLoss scores)
  else if code = 3 ∧ scores = 1 then some .poissonDeviance
  else none

/-- The objective that a handle stands for. -/
def ofHandle (h : Handle) : Except ObjectiveError Objective :=
  match ofCode? h.objective h.scoreCount with
  | none => .error (.unknownCode h.objective h.scoreCount)
  | some o =>
    if o.link.code = h.link then .ok o
    else
      .error (.invalidParameter
        ("link " ++ toString h.link.toInt ++ " não corresponde ao objetivo " ++ o.name))

end Objective

/-- The handle asks for a greater metric. -/
def Handle.asksToMaximize (h : Handle) : Bool :=
  isSet h.maximizes

end BoostZones
