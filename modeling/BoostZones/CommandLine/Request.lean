import BoostZones.CommandLine.Help
import BoostZones.Objective.Name

/-!
What the arguments ask for: a command with its switches, or a text to show. Arguments are read
from left to right, and the first misuse or the first request for a text decides. A value that
is an argument of its own waits: it is looked at when the next switch of its row is read, or
when everything else has been read. A settings file that is given to the command goes before one
that is given to the program.
-/

namespace BoostZones.CommandLine

inductive Command where
  | list (json : Bool)
  | check (samples : UInt64) (objective : Option Objective) (json : Bool)
  | config

structure Request where
  /-- The path of the settings file. -/
  file : Option String
  command : Command

/-- Why the arguments ask for no command. -/
inductive Stop where
  | shown (text : String)
  | misuse

/-- The values of the switches so far. -/
structure Choices where
  file : Option String
  samples : Option UInt64
  objective : Option Objective
  json : Bool

namespace Choices

def none : Choices := ⟨.none, .none, .none, false⟩

/-- The choices after one more switch, which must be new and have a value that can be read. -/
def choose (help : String) (c : Choices) (s : Switch) (value : String) : Except Stop Choices :=
  match s with
  | .help => .error (.shown help)
  | .version => .error (.shown versionText)
  | .config =>
    if c.file.isSome ∨ value = "" then .error .misuse else .ok { c with file := some value }
  | .samples =>
    match c.samples, Text.readCount? value.toList with
    | .none, some n => .ok { c with samples := some n }
    | _, _ => .error .misuse
  | .objective =>
    match c.objective, Objective.parse value with
    | .none, .ok o => .ok { c with objective := some o }
    | _, _ => .error .misuse
  | .json => if c.json then .error .misuse else .ok { c with json := true }

end Choices

/-- What a row of tokens makes: choices, a switch whose value still waits, and the word that ends
the row. -/
structure Row where
  choices : Choices
  waiting : Option (Switch × String)
  word : Option (String × List String)

namespace Row

/-- The row before its first token. -/
def start : Row := ⟨.none, none, none⟩

/-- The choices with the waiting one among them. -/
def settle (help : String) (r : Row) : Except Stop Choices :=
  match r.waiting with
  | none => .ok r.choices
  | some (s, value) => r.choices.choose help s value

/-- The row with tokens added. -/
def collect (help : String) (r : Row) : List Token → Except Stop Row
  | [] => .ok r
  | .misuse :: _ => .error .misuse
  | .word text rest :: _ => .ok { r with word := some (text, rest) }
  | .switch s value :: rest => do
    let settled ← r.settle help
    let choices ← settled.choose help s value
    collect help { r with choices, waiting := none } rest
  | .pair s value :: rest => do
    let choices ← r.settle help
    collect help { r with choices, waiting := some (s, value) } rest

end Row

/-- The text that the help command shows for these arguments. -/
def helpFor : List String → Stop
  | [] => .shown programHelp
  | [name] =>
    match Verb.all.find? (·.name == name) with
    | some v => .shown v.help
    | none => if name = helpName then .shown helpHelp else .misuse
  | _ => .misuse

/-- The command of a verb with its choices. -/
def Verb.command (v : Verb) (c : Choices) : Command :=
  match v with
  | .list => .list c.json
  | .check => .check (c.samples.getD defaultSamples) c.objective c.json
  | .config => .config

/-- What the arguments ask for. The values of the command are all looked at before the one that
waits in front of it, and the help command looks at none. -/
def parse (args : List String) : Except Stop Request := do
  let outer ← Row.start.collect programHelp (tokens globalSwitches args)
  match outer.word with
  | none => throw .misuse
  | some (name, rest) =>
    if name = helpName then throw (helpFor rest)
    match Verb.all.find? (·.name == name) with
    | none => throw .misuse
    | some v =>
      let inner ← Row.start.collect v.help (tokens v.switches rest)
      if inner.word.isSome then throw .misuse
      let chosen ← inner.settle v.help
      let before ← outer.settle programHelp
      return { file := chosen.file.or before.file, command := v.command chosen }

end BoostZones.CommandLine
