/-!
Switches of the command line. An argument with one dash is a letter, one with two dashes is a
word; the value of a switch is attached to it or is the next argument, which then has no dash.
-/

namespace BoostZones.CommandLine

inductive Switch where
  | config
  | samples
  | objective
  | json
  | help
  | version
deriving DecidableEq

namespace Switch

def letter? : Switch → Option Char
  | .config => some 'c'
  | .samples => some 's'
  | .objective => some 'o'
  | .json => none
  | .help => some 'h'
  | .version => some 'V'

def word : Switch → String
  | .config => "config"
  | .samples => "samples"
  | .objective => "objective"
  | .json => "json"
  | .help => "help"
  | .version => "version"

/-- What the value of a switch is called, if it has one. -/
def value? : Switch → Option String
  | .config => some "CONFIG"
  | .samples => some "SAMPLES"
  | .objective => some "OBJECTIVE"
  | _ => none

end Switch

/-- What a single argument is. -/
inductive Argument where
  /-- A switch, with a value if one is attached. -/
  | switch (s : Switch) (attached : Option String)
  | word
  /-- Something with a dash that is not allowed here. -/
  | unknown

/-- An argument with two dashes, without them. A switch that has no value cannot be given one. -/
def readLong (allowed : List Switch) (cs : List Char) : Argument :=
  let name := String.ofList (cs.takeWhile (· ≠ '='))
  let attached := (cs.dropWhile (· ≠ '=')).tail?.map String.ofList
  match allowed.find? (·.word == name) with
  | some s => if s.value?.isNone ∧ attached.isSome then .unknown else .switch s attached
  | none => .unknown

/-- An argument with one dash, without it. What follows the letter is the value. -/
def readShort (allowed : List Switch) (letter : Char) (cs : List Char) : Argument :=
  match allowed.find? (·.letter? == some letter) with
  | some s =>
    if s.value?.isNone ∨ cs.isEmpty then .switch s none
    else if cs.head? = some '=' then .switch s (some (String.ofList cs.tail))
    else .switch s (some (String.ofList cs))
  | none => .unknown

def readArgument (allowed : List Switch) (arg : String) : Argument :=
  match arg.toList with
  | '-' :: '-' :: cs => readLong allowed cs
  | '-' :: letter :: cs => readShort allowed letter cs
  | _ => .word

/-- The argument begins with a dash and is not only a dash. -/
def isDashed (arg : String) : Bool :=
  match arg.toList with
  | '-' :: _ :: _ => true
  | _ => false

/-- What a row of arguments is read as. -/
inductive Token where
  /-- A switch that is complete in one argument. Its value is empty if it has none. -/
  | switch (s : Switch) (value : String)
  /-- A switch and the argument after it, which is its value. -/
  | pair (s : Switch) (value : String)
  /-- A word, and the arguments after it. -/
  | word (text : String) (rest : List String)
  | misuse

/-- The tokens up to the first word or misuse. Two dashes end the switches; nothing may follow
them. -/
def tokens (allowed : List Switch) : List String → List Token
  | [] => []
  | arg :: rest =>
    if arg = "--" then if rest.isEmpty then [] else [.misuse]
    else
      match readArgument allowed arg, rest with
      | .unknown, _ => [.misuse]
      | .word, rest => [.word arg rest]
      | .switch s (some value), rest => .switch s value :: tokens allowed rest
      | .switch s none, rest =>
        if s.value?.isNone then .switch s "" :: tokens allowed rest
        else
          match rest with
          | [] => [.misuse]
          | value :: rest =>
            if isDashed value then [.misuse] else .pair s value :: tokens allowed rest

end BoostZones.CommandLine
