import BoostZones.Binary64
import BoostZones.Objective
import BoostZones.Objective.Error

/-!
The domain of targets. A target is a finite number; for log loss it is a class, that is a whole
number from zero up and below the class count, and for counts it is not negative.
-/

namespace BoostZones.Objective

/-- The place that a target names among the scores: no number and what is negative name the
first, and what no word can hold names the greatest word. -/
def classIndex (target : Float) : Nat :=
  target.toUInt64.toNat

/-- The target is a class of `classes` many. -/
def isClass (classes : UInt64) (target : Float) : Bool :=
  !(target < 0) && (Binary64.ofFloat target).isWhole && target.toUInt64 < classes

/-- The first thing wrong with a target, if anything is. -/
def targetFault? (o : Objective) (target : Float) : Option TargetFault :=
  if !target.isFinite then some .notFinite
  else
    match o with
    | .rmse => none
    | .logLoss classes => if isClass classes target then none else some .notAClass
    | .poissonDeviance => if target < 0 then some .negative else none

/-- Accepts targets that are all in the domain, or reports the first that is not. -/
def checkTargets (o : Objective) (targets : List Float) : Except ObjectiveError Unit :=
  go 0 targets
where
  go (index : Nat) : List Float → Except ObjectiveError Unit
    | [] => .ok ()
    | target :: rest =>
      match o.targetFault? target with
      | some fault => .error (.invalidTarget index target fault.message)
      | none => go (index + 1) rest

theorem checkTargets_go_eq_ok_iff (o : Objective) (index : Nat) (targets : List Float)
    : checkTargets.go o index targets = .ok () ↔ ∀ t ∈ targets, o.targetFault? t = none := by
  induction targets generalizing index with
  | nil => simp [checkTargets.go]
  | cons target rest ih =>
    rw [checkTargets.go]
    cases fault : o.targetFault? target <;> simp [fault, ih]

/-- Targets are accepted exactly when nothing is wrong with any of them. -/
theorem checkTargets_eq_ok_iff (o : Objective) (targets : List Float)
    : o.checkTargets targets = .ok () ↔ ∀ t ∈ targets, o.targetFault? t = none :=
  o.checkTargets_go_eq_ok_iff 0 targets

end BoostZones.Objective
