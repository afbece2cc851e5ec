import BoostZones.Decimal.Layout
import BoostZones.Zone.Error

/-!
What goes wrong with an objective. Inside a kernel such an error becomes an error of the call:
a bad value is a bad parameter, and an objective that is not known does not match.
-/

namespace BoostZones

/-- Why a target is outside the objective's domain. -/
inductive TargetFault where
  | notFinite
  | notAClass
  | negative
deriving DecidableEq

def TargetFault.message : TargetFault → String
  | .notFinite => "não finito"
  | .notAClass => "classe fora de 0..classes"
  | .negative => "negativo"

inductive ObjectiveError where
  | unknownObjective (text : String)
  /-- No objective has this code with this number of scores. -/
  | unknownCode (code : UInt32) (scores : UInt64)
  | invalidParameter (reason : String)
  | invalidTarget (index : Nat) (value : Float) (reason : String)

namespace ObjectiveError

def message : ObjectiveError → String
  | .unknownObjective text => "Objetivo desconhecido: " ++ text
  | .unknownCode code scores =>
    "Código de objetivo inválido: " ++ toString code.toNat ++ " (c_scores="
      ++ toString scores.toNat ++ ")"
  | .invalidParameter reason => "Parâmetro inválido: " ++ reason
  | .invalidTarget index value reason =>
    "Target inválido no sample " ++ toString index ++ ": " ++ Decimal.plain value ++ " ("
      ++ reason ++ ")"

/-- The error as an error of the call. -/
def toZoneError (e : ObjectiveError) : ZoneError :=
  match e with
  | .invalidTarget .. | .invalidParameter _ => .invalidParameter e.message
  | _ => .objectiveMismatch e.message

/-- As an error of the call, every error of an objective is a bad parameter of the kernel. -/
theorem status_toZoneError (e : ObjectiveError)
    : e.toZoneError.status = .illegalParameter := by
  cases e <;> rfl

end ObjectiveError
end BoostZones
