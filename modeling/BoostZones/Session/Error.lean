import BoostZones.Objective.Error
import BoostZones.Settings.Error

/-!
What goes wrong in a run, from the settings to the last metric. Some errors are a matter of
setting the run up; the others come from a single call.
-/

namespace BoostZones

inductive RunError where
  | zone (reason : ZoneError)
  | objective (reason : ObjectiveError)
  | settings (reason : SettingsError)
  | noZoneAvailable
  | invalidTotalWeight (weight : Float)
  /-- A zone does not agree with the baseline. -/
  | divergence (zone : Zone) (detail : String)

namespace RunError

def message : RunError → String
  | .zone reason => reason.message
  | .objective reason => reason.message
  | .settings reason => reason.message
  | .noZoneAvailable => "Nenhuma zona disponível"
  | .invalidTotalWeight weight => "Peso total inválido: " ++ Decimal.plain weight
  | .divergence z detail => "Zona '" ++ z.name ++ "' divergiu da baseline: " ++ detail

/-- The error is one of setting a run up. -/
def isConfiguration : RunError → Bool
  | .zone reason => reason.isConfiguration
  | .objective (.unknownObjective _) => true
  | .settings _ | .noZoneAvailable => true
  | _ => false

end RunError
end BoostZones
