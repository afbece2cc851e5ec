import BoostZones.Objective.Name
import BoostZones.Settings.Error
import BoostZones.Zone.Name

/-!
Settings: which zone is asked for, what happens when it cannot work, and what is learned.
Values of the environment are laid over the settings one after the other, and the first that
means nothing is an error.
-/

namespace BoostZones

/-- Which zone is asked for. -/
inductive Selection where
  /-- The best one that can work. -/
  | auto
  | fixed (zone : Zone)
deriving DecidableEq

namespace Selection

def name : Selection → String
  | .auto => "auto"
  | .fixed zone => zone.name

/-- Reads a selection: `auto`, or a zone's name. -/
def parse (text : String) : Except ZoneError Selection :=
  if Text.lower (Text.trim text) = auto.name then .ok .auto
  else (Zone.parse text).map fixed

end Selection

structure ZoneSettings where
  selection : Selection
  /-- The baseline stands in for a zone that cannot work. -/
  fallback : Bool
deriving DecidableEq

structure ObjectiveSettings where
  name : String
  /-- The class count of a log loss whose name has none. -/
  classes : UInt64
deriving DecidableEq

structure Settings where
  zone : ZoneSettings
  objective : ObjectiveSettings
deriving DecidableEq

namespace Settings

/-- The class count that stands where none is given. -/
def defaultClasses : UInt64 := 2

/-- What holds where nothing is said. -/
def default : Settings where
  zone := ⟨.auto, true⟩
  objective := ⟨Objective.rmse.name, defaultClasses⟩

-------------------------------------------------------------------------------
-- Reading them
-------------------------------------------------------------------------------

/-- What is learned: the named objective. A log loss without brackets in its name takes the
class count of the settings. -/
def learned (s : Settings) : Except ObjectiveError Objective := do
  let objective :=
    match ← Objective.parse s.objective.name with
    | .logLoss classes =>
      .logLoss (if s.objective.name.toList.contains '[' then classes else s.objective.classes)
    | other => other
  objective.validate
  return objective

/-- The key that is reported for an objective that cannot be used. -/
def nameKey : String := "objective.name"

/-- The settings name an objective that can be used. -/
def check (s : Settings) : Except SettingsError Unit :=
  match s.learned with
  | .ok _ => .ok ()
  | .error e => .error (.invalidValue nameKey s.objective.name e.message)

-------------------------------------------------------------------------------
-- Changing them
-------------------------------------------------------------------------------

def withSelection (s : Settings) (selection : Selection) : Settings :=
  { s with zone := { s.zone with selection } }

def withZone (s : Settings) (zone : Zone) : Settings :=
  s.withSelection (.fixed zone)

def withFallback (s : Settings) (fallback : Bool) : Settings :=
  { s with zone := { s.zone with fallback } }

/-- Names an objective, and keeps its class count if it has one. -/
def withObjective (s : Settings) (o : Objective) : Settings :=
  { s with
    objective := {
      name := o.name
      classes :=
        match o with
        | .logLoss classes => classes
        | _ => defaultClasses } }

-------------------------------------------------------------------------------
-- The environment
-------------------------------------------------------------------------------

/-- Values of the environment by their keys. -/
abbrev Environment := String → Option String

def zoneKey : String := "EBM_ZONE"
def objectiveKey : String := "EBM_OBJECTIVE"
def fallbackKey : String := "EBM_ZONE_FALLBACK"

/-- Reads a truth value. -/
def readSwitch? (text : String) : Option Bool :=
  let word := Text.lower (Text.trim text)
  if ["1", "true", "yes", "on"].contains word then some true
  else if ["0", "false", "no", "off"].contains word then some false
  else none

/-- Changes settings by the value of a key, if the environment has it. -/
def override (environment : Environment) (key : String)
    (change : String → Settings → Except String Settings) (s : Settings)
    : Except SettingsError Settings :=
  match environment key with
  | none => .ok s
  | some value => (change value s).mapError (.invalidValue key value)

def overrideZone (value : String) (s : Settings) : Except String Settings :=
  ((Selection.parse value).mapError ZoneError.message).map s.withSelection

def overrideObjective (value : String) (s : Settings) : Except String Settings :=
  ((Objective.parse value).mapError ObjectiveError.message).map s.withObjective

def overrideFallback (value : String) (s : Settings) : Except String Settings :=
  match readSwitch? value with
  | some fallback => .ok (s.withFallback fallback)
  | none => .error "esperado true/false"

/-- The settings with the environment laid over them: the zone, the objective, the fallback. -/
def overlay (environment : Environment) (s : Settings) : Except SettingsError Settings := do
  let s ← override environment zoneKey overrideZone s
  let s ← override environment objectiveKey overrideObjective s
  override environment fallbackKey overrideFallback s

end Settings
end BoostZones
