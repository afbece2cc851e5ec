import BoostZones.Zone.Error

/-!
What goes wrong with settings: the file, its text, or a value that does not mean anything.
-/

namespace BoostZones

inductive SettingsError where
  /-- The file is not there, or is no text. -/
  | unreadable (path : String)
  /-- The text does not describe settings. -/
  | malformed
  /-- The settings hold a number that their text cannot. -/
  | unwritable
  | invalidValue (key value reason : String)
deriving DecidableEq

def SettingsError.message : SettingsError → String
  | .unreadable path => "Falha ao ler " ++ path
  | .malformed => "TOML inválido"
  | .unwritable => "Falha ao serializar configuração"
  | .invalidValue key value reason =>
    "Valor inválido para " ++ key ++ ": '" ++ value ++ "' (" ++ reason ++ ")"

end BoostZones
