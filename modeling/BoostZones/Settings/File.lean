import BoostZones.Settings
import BoostZones.Toml.Document
import BoostZones.Toml.Quoting

/-!
Settings as a TOML text, and settings from a file and the environment. The text has a table for
the zone and one for the objective; what is missing keeps its default, and what is not known is
an error. What is written reads back as the same settings.
-/

namespace BoostZones

-------------------------------------------------------------------------------
-- Reading
-------------------------------------------------------------------------------

namespace Toml.Value

def text? : Value → Option String
  | .text content => some content
  | _ => none

def boolean? : Value → Option Bool
  | .boolean b => some b
  | _ => none

/-- A count: an integer that is not negative. -/
def count? : Value → Option UInt64
  | .integer n => if 0 ≤ n then some (UInt64.ofNat n.toNat) else none
  | _ => none

end Toml.Value

open Toml

/-- A field that keeps its default when it is missing. -/
def fieldOr (read : Value → Option α) (missing : α) : Option Value → Option α
  | none => some missing
  | some v => read v

namespace Settings

def zoneTable : String := "zone"
def selectionField : String := "selection"
def fallbackField : String := "fallback_to_baseline"
def objectiveTable : String := "objective"
def nameField : String := "name"
def classesField : String := "classes"

def selectionOf? (v : Value) : Option Selection :=
  v.text?.bind fun name => (Selection.parse name).toOption

def zoneOf? (v : Value) : Option ZoneSettings := do
  let field ← v.fields? [selectionField, fallbackField]
  let selection ← fieldOr selectionOf? default.zone.selection (field selectionField)
  let fallback ← fieldOr Value.boolean? default.zone.fallback (field fallbackField)
  return { selection, fallback }

def objectiveOf? (v : Value) : Option ObjectiveSettings := do
  let field ← v.fields? [nameField, classesField]
  let name ← fieldOr Value.text? default.objective.name (field nameField)
  let classes ← fieldOr Value.count? default.objective.classes (field classesField)
  return { name, classes }

def ofValue? (v : Value) : Option Settings := do
  let field ← v.fields? [zoneTable, objectiveTable]
  let zone ← fieldOr zoneOf? default.zone (field zoneTable)
  let objective ← fieldOr objectiveOf? default.objective (field objectiveTable)
  return { zone, objective }

/-- The settings that a text describes. -/
def parse (text : String) : Except SettingsError Settings :=
  match (Toml.parse? text).bind ofValue? with
  | some s => .ok s
  | none => .error .malformed

-------------------------------------------------------------------------------
-- Writing
-------------------------------------------------------------------------------

/-- The greatest class count that a TOML integer can hold. -/
def maxWritable : Nat := Toml.integerLimit - 1

def writeBoolean (b : Bool) : String :=
  if b then "true" else "false"

/-- The lines of the settings' text. -/
def lines (s : Settings) : List String := [
  "[" ++ zoneTable ++ "]",
  selectionField ++ " = " ++ quoted s.zone.selection.name,
  fallbackField ++ " = " ++ writeBoolean s.zone.fallback,
  "",
  "[" ++ objectiveTable ++ "]",
  nameField ++ " = " ++ quoted s.objective.name,
  classesField ++ " = " ++ Text.writeCount s.objective.classes]

/-- The text of settings, with every line ended. -/
def toText (s : Settings) : Except SettingsError String :=
  if maxWritable < s.objective.classes.toNat then .error .unwritable
  else .ok (String.join (s.lines.map (· ++ "\n")))

-------------------------------------------------------------------------------
-- Loading
-------------------------------------------------------------------------------

/-- A settings file: its path, and what it holds if that is a text. -/
structure File where
  path : String
  content : Option String

def ofFile (file : File) : Except SettingsError Settings :=
  match file.content with
  | some text => parse text
  | none => .error (.unreadable file.path)

/-- The settings of a file, or the defaults without one, with the environment laid over them.
They have to name an objective that can be used. -/
def load (file : Option File) (environment : Environment) : Except SettingsError Settings := do
  let base ←
    match file with
    | some file => ofFile file
    | none => pure default
  let s ← base.overlay environment
  s.check
  return s

end Settings
end BoostZones
