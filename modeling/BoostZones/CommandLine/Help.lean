import BoostZones.CommandLine.Switch

/-!
The commands and the help texts. A help text says what a command is for, how it is called, and
which switches it has, in one column as wide as the longest of them.
-/

namespace BoostZones.CommandLine

def programName : String := "ebm-zones"

def versionText : String := programName ++ " 2026.1.16\n"

/-- What the program can be told to do. -/
inductive Verb where
  | list
  | check
  | config
deriving DecidableEq

namespace Verb

def all : List Verb :=
  [.list, .check, .config]

def name : Verb → String
  | .list => "list"
  | .check => "check"
  | .config => "config"

def about : Verb → String
  | .list => "Zonas conhecidas, disponibilidade e símbolos exportados"
  | .check => "Roda todas as zonas disponíveis num problema sintético e compara com a baseline"
  | .config => "Configuração efetiva e zona selecionada"

/-- The switches of a command, in the order of its help text. -/
def switches : Verb → List Switch
  | .list => [.config, .json, .help]
  | .check => [.config, .samples, .objective, .json, .help]
  | .config => [.config, .help]

end Verb

/-- The switches before a command. -/
def globalSwitches : List Switch :=
  [.config, .help, .version]

/-- The number of samples of a check when none is given. -/
def defaultSamples : UInt64 := 10000

def Switch.about : Switch → String
  | .config => "Arquivo de configuração (TOML)"
  | .samples => "Número de samples [default: " ++ toString defaultSamples.toNat ++ "]"
  | .objective => "Objetivo (padrão: o da configuração)"
  | .json => "Saída em JSON"
  | .help => "Print help"
  | .version => "Print version"

/-- How a switch is written. Words stand under each other. -/
def Switch.usage (s : Switch) : String :=
  let letter := s.letter?.elim "    " fun c => "-" ++ c.toString ++ ", "
  let value := s.value?.elim "" fun name => " <" ++ name ++ ">"
  letter ++ "--" ++ s.word ++ value

/-- A text filled up with spaces to a width. -/
def padded (width : Nat) (text : String) : String :=
  text ++ String.ofList (List.replicate (width - text.length) ' ')

/-- Lines with a term and its explanation. -/
def columns (rows : List (String × String)) : String :=
  let width := (rows.map (·.1.length)).foldl max 0
  String.join (rows.map fun (term, about) => "  " ++ padded width term ++ "  " ++ about ++ "\n")

def switchColumns (switches : List Switch) : String :=
  "\nOptions:\n" ++ columns (switches.map fun s => (s.usage, s.about))

/-- The command that shows help texts. -/
def helpName : String := "help"

def helpAbout : String := "Print this message or the help of the given subcommand(s)"

/-- The help text of the program. -/
def programHelp : String :=
  "Lista e verifica as zonas de kernel da ponte EBM\n\nUsage: " ++ programName
    ++ " [OPTIONS] <COMMAND>\n\nCommands:\n"
    ++ columns (Verb.all.map (fun v => (v.name, v.about)) ++ [(helpName, helpAbout)])
    ++ switchColumns globalSwitches

/-- The help text of a command. -/
def Verb.help (v : Verb) : String :=
  v.about ++ "\n\nUsage: " ++ programName ++ " " ++ v.name ++ " [OPTIONS]\n"
    ++ switchColumns v.switches

/-- The help text of the command that shows help texts. -/
def helpHelp : String :=
  helpAbout ++ "\n\nUsage: " ++ programName ++ " " ++ helpName ++ " [COMMAND]...\n\nArguments:\n"
    ++ columns [("[COMMAND]...", "Print help for the subcommand(s)")]

end BoostZones.CommandLine
