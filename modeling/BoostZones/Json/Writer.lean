import BoostZones.Decimal.Layout
import BoostZones.Json
import BoostZones.Json.Text
import BoostZones.Text.Numeral

/-!
Writing JSON over several lines. Every item and every field has a line of its own, two spaces
further in than the brackets around it; brackets with nothing in them stay together.
-/

namespace BoostZones.Json

/-- The beginning of a line at a depth. -/
def newLine (depth : Nat) : String :=
  "\n" ++ String.ofList (List.replicate (2 * depth) ' ')

/-- Lines between two brackets, `depth` being that of the brackets. -/
def enclose (opening closing : String) (depth : Nat) (parts : List String) : String :=
  if parts.isEmpty then opening ++ closing
  else
    opening ++ newLine (depth + 1)
      ++ ("," ++ newLine (depth + 1)).intercalate parts
      ++ newLine depth ++ closing

mutual

/-- A value whose brackets are at a depth. -/
def writeAt (depth : Nat) : Json → String
  | .null => "null"
  | .boolean b => if b then "true" else "false"
  | .count n => Text.writeCount n
  | .number x => Decimal.json x
  | .text content => writeText content
  | .list items => enclose "[" "]" depth (writeItems (depth + 1) items)
  | .object fields => enclose "\x7b" "\x7d" depth (writeFields (depth + 1) fields)

def writeItems (depth : Nat) : List Json → List String
  | [] => []
  | item :: rest => writeAt depth item :: writeItems depth rest

def writeFields (depth : Nat) : List (String × Json) → List String
  | [] => []
  | (name, value) :: rest =>
    (writeText name ++ ": " ++ writeAt depth value) :: writeFields depth rest

end

def write (j : Json) : String :=
  writeAt 0 j

end BoostZones.Json
