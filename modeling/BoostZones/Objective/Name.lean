import BoostZones.Objective
import BoostZones.Objective.Error
import BoostZones.Text.Blank
import BoostZones.Text.Numeral

/-!
Objectives as people write them: `rmse`, `log_loss`, `log_loss[3]`, `poisson` or
`poisson_deviance`, in letters of either case, with blanks around them. A class count stands
between brackets and has to be two or more.
-/

namespace BoostZones.Objective

/-- An objective can be used unless it is a classification into fewer than two classes. -/
def validate : Objective → Except ObjectiveError Unit
  | .logLoss classes =>
    if classes < 2 then
      .error (.invalidParameter
        ("log_loss exige ao menos 2 classes, recebeu " ++ Text.writeCount classes))
    else .ok ()
  | _ => .ok ()

/-- The name with the class count in brackets when there are more than two classes. -/
def display : Objective → String
  | .logLoss classes =>
    if 2 < classes then "log_loss[" ++ Text.writeCount classes ++ "]" else "log_loss"
  | .rmse => "rmse"
  | .poissonDeviance => "poisson_deviance"

/-- The class count before the closing bracket. -/
def readClasses? (cs : List Char) : Option UInt64 :=
  ("]".toList.isSuffixOf? cs).bind Text.readCount?

/-- Reads a name that is trimmed and in small letters. -/
def parseName (name : String) : Except ObjectiveError Objective :=
  match "log_loss[".toList.isPrefixOf? name.toList with
  | some rest =>
    match readClasses? rest with
    | some classes => do
      let objective := logLoss classes
      objective.validate
      return objective
    | none => .error (.unknownObjective name)
  | none =>
    if name = "rmse" then .ok .rmse
    else if name = "log_loss" then .ok binary
    else if name = "poisson_deviance" ∨ name = "poisson" then .ok .poissonDeviance
    else .error (.unknownObjective name)

/-- Reads an objective. The error keeps the trimmed text in small letters. -/
def parse (text : String) : Except ObjectiveError Objective :=
  parseName (Text.lower (Text.trim text))

theorem validate_eq_ok_iff (o : Objective)
    : o.validate = .ok () ↔ ∀ classes, o = .logLoss classes → 2 ≤ classes := by
  cases o with
  | logLoss classes =>
    by_cases few : classes < 2
    · simp [validate, few, UInt64.not_le.2 few]
    · simp [validate, few, UInt64.not_lt.1 few]
  | rmse => simp [validate]
  | poissonDeviance => simp [validate]

end BoostZones.Objective
