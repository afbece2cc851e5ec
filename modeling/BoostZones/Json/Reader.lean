import BoostZones.Decimal.Reading
import BoostZones.Json
import BoostZones.Json.Text
import BoostZones.Text.Numeral

/-!
Reading JSON. The whole text has to be one value with blanks around it, nested only so deep; a
number without a point or an exponent may be a count, and one above all doubles is refused.
-/

namespace BoostZones.Json

/-- How deep lists and objects may be nested. -/
def maxDepth : Nat := 127

abbrev Reader (α : Type) := List Char → Option (α × List Char)

def skipBlank (cs : List Char) : List Char :=
  cs.dropWhile fun c => c == ' ' || c == '\n' || c == '\t' || c == '\r'

-------------------------------------------------------------------------------
-- Numbers
-------------------------------------------------------------------------------

/-- One or more digits. -/
def readDigits : Reader (List Char) := fun cs =>
  let digits := cs.takeWhile Char.isDigit
  if digits.isEmpty then none else some (digits, cs.dropWhile Char.isDigit)

/-- The digits before the point, which begin with a zero only if it is the only one. -/
def readWhole : Reader (List Char) := fun cs => do
  let (digits, rest) ← readDigits cs
  if digits.head? = some '0' ∧ digits ≠ ['0'] then none else some (digits, rest)

/-- The digits behind a point, none without a point. -/
def readPlaces : Reader (List Char) := fun cs =>
  match cs with
  | '.' :: rest => readDigits rest
  | _ => some ([], cs)

/-- The exponent, if there is one. -/
def readExponent : Reader (Option Int) := fun cs =>
  match cs with
  | c :: rest =>
    if c = 'e' ∨ c = 'E' then do
      let (negative, rest) :=
        match rest with
        | '-' :: rest => (true, rest)
        | '+' :: rest => (false, rest)
        | _ => (false, rest)
      let (digits, rest) ← readDigits rest
      let size : Int := Nat.ofDigitChars 10 digits 0
      return (some (if negative then -size else size), rest)
    else some (none, cs)
  | [] => some (none, cs)

/-- A number after its sign. -/
def readUnsigned (negative : Bool) : Reader Json := fun cs => do
  let (whole, rest) ← readWhole cs
  let (places, rest) ← readPlaces rest
  let (exponent, rest) ← readExponent rest
  let coefficient := Nat.ofDigitChars 10 (whole ++ places) 0
  if !negative ∧ places = [] ∧ exponent = none ∧ coefficient < Text.wordLimit then
    return (.count (UInt64.ofNat coefficient), rest)
  else
    let size ← Decimal.read? coefficient (exponent.getD 0 - places.length)
    return (.number (if negative then -size else size), rest)

-------------------------------------------------------------------------------
-- Values
-------------------------------------------------------------------------------

/-- A value that holds no others. -/
def readScalar : Reader Json := fun cs =>
  match cs with
  | '"' :: rest => (readContent rest).map fun (content, rest) =>
    (.text (String.ofList content), rest)
  | '-' :: rest => readUnsigned true rest
  | _ =>
    let words : List (String × Json) :=
      [("null", .null), ("true", .boolean true), ("false", .boolean false)]
    let word? := words.findSome? fun (word, value) =>
      (word.toList.isPrefixOf? cs).map (value, ·)
    word?.or (readUnsigned false cs)

/-- The items of a list from the first one to the closing bracket; at most `limit`. -/
def readItems (item : Reader Json) : Nat → Reader (List Json)
  | 0 => fun _ => none
  | limit + 1 => fun cs => do
    let (value, rest) ← item (skipBlank cs)
    match skipBlank rest with
    | ']' :: rest => return ([value], rest)
    | ',' :: rest =>
      let (others, rest) ← readItems item limit rest
      return (value :: others, rest)
    | _ => none

/-- The fields of an object from the first one to the closing brace; at most `limit`. -/
def readFields (item : Reader Json) : Nat → Reader (List (String × Json))
  | 0 => fun _ => none
  | limit + 1 => fun cs => do
    let rest ← ['"'].isPrefixOf? (skipBlank cs)
    let (name, rest) ← readContent rest
    let rest ← [':'].isPrefixOf? (skipBlank rest)
    let (value, rest) ← item (skipBlank rest)
    let field := (String.ofList name, value)
    match skipBlank rest with
    | '\x7d' :: rest => return ([field], rest)
    | ',' :: rest =>
      let (others, rest) ← readFields item limit rest
      return (field :: others, rest)
    | _ => none

/-- A value with lists and objects nested at most `depth` deep, each of at most `limit` parts. -/
def readValue (limit : Nat) : Nat → Reader Json
  | 0 => readScalar
  | depth + 1 => fun cs =>
    match cs with
    | '[' :: rest =>
      match skipBlank rest with
      | ']' :: rest => some (.list [], rest)
      | _ => (readItems (readValue limit depth) limit rest).map fun (items, rest) =>
        (.list items, rest)
    | '\x7b' :: rest =>
      match skipBlank rest with
      | '\x7d' :: rest => some (.object [], rest)
      | _ => (readFields (readValue limit depth) limit rest).map fun (fields, rest) =>
        (.object fields, rest)
    | _ => readScalar cs

/-- The value that a text is. Nothing in it has more parts than it has characters. -/
def parse? (text : String) : Option Json := do
  let cs := text.toList
  let (value, rest) ← readValue cs.length maxDepth (skipBlank cs)
  if (skipBlank rest).isEmpty then some value else none

end BoostZones.Json
