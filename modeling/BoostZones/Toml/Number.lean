import BoostZones.Decimal.Reading
import BoostZones.Text.Hexadecimal
import BoostZones.Toml.Moment
import BoostZones.Toml.Value

/-!
Numbers. An integer has decimal digits and a sign, or a base and digits; it has to fit 64 bits
with a sign. Single underscores may stand between digits. A fraction has a point, an exponent or
both, or is an infinity or no number; one that is above all doubles is refused.
-/

namespace BoostZones.Toml

/-- Digits with single underscores between them, and what follows. -/
def digitRun (isDigit : Char → Bool) : List Char → List Char × List Char
  | [] => ([], [])
  | '_' :: c :: rest =>
    if isDigit c then
      let (digits, rest) := digitRun isDigit rest
      (c :: digits, rest)
    else ([], '_' :: c :: rest)
  | c :: rest =>
    if isDigit c then
      let (digits, rest) := digitRun isDigit rest
      (c :: digits, rest)
    else ([], c :: rest)

/-- One or more digits. -/
def digits? (isDigit : Char → Bool) : List Char → Option (List Char × List Char)
  | [] => none
  | c :: rest => if isDigit c then some (digitRun isDigit (c :: rest)) else none

/-- The digits of a whole number, which begin with a zero only if it is the only one. -/
def wholeDigits? : List Char → Option (List Char × List Char)
  | '0' :: rest => some (['0'], rest)
  | cs => digits? Char.isDigit cs

/-- Whether there is a minus sign, and what follows the sign. -/
def sign : List Char → Bool × List Char
  | '-' :: rest => (true, rest)
  | '+' :: rest => (false, rest)
  | cs => (false, cs)

/-- The size of the least integer; all others are smaller. -/
def integerLimit : Nat := Nat.pow 2 63

/-- The integer of a sign and a size, if it fits 64 bits. -/
def integer? (negative : Bool) (size : Nat) : Option Int :=
  if negative then if size ≤ integerLimit then some (-size) else none
  else if size < integerLimit then some size else none

/-- The letters that tell the base of an integer. -/
def base? : Char → Option Nat
  | 'x' => some 16
  | 'o' => some 8
  | 'b' => some 2
  | _ => none

/-- An integer with a base. -/
def basedInteger? : List Char → Option (Int × List Char)
  | '0' :: letter :: cs => do
    let base ← base? letter
    let value (c : Char) := (Text.hexValue? c).filter (· < base)
    let (digits, rest) ← digits? (fun c => (value c).isSome) cs
    let size := digits.foldl (fun n c => base * n + (value c).getD 0) 0
    return (← integer? false size, rest)
  | _ => none

/-- An integer in decimal digits. -/
def decimalInteger? (cs : List Char) : Option (Int × List Char) := do
  let (negative, cs) := sign cs
  let (digits, rest) ← wholeDigits? cs
  return (← integer? negative (Nat.ofDigitChars 10 digits 0), rest)

-------------------------------------------------------------------------------
-- Fractions
-------------------------------------------------------------------------------

/-- An exponent. -/
def exponent? : List Char → Option (Int × List Char)
  | [] => none
  | c :: cs => do
    guard (c = 'e' ∨ c = 'E')
    let (negative, cs) := sign cs
    let (digits, rest) ← digits? Char.isDigit cs
    let size := Nat.ofDigitChars 10 digits 0
    return (if negative then -size else size, rest)

/-- The digits behind a point. -/
def pointDigits? : List Char → Option (List Char × List Char)
  | '.' :: cs => digits? Char.isDigit cs
  | _ => none

/-- The double with a sign. -/
def signed (negative : Bool) (size : Float) : Float :=
  if negative then -size else size

/-- A number with a point or an exponent. Below the least double there is an infinity, and above
the greatest there is nothing. -/
def fraction? (cs : List Char) : Option (Float × List Char) := do
  let (negative, cs) := sign cs
  let (whole, rest) ← wholeDigits? cs
  let (places, rest) ←
    match pointDigits? rest with
    | some (places, rest) => some (places, rest)
    | none => if (exponent? rest).isSome then some ([], rest) else none
  let (exponent, rest) := (exponent? rest).getD (0, rest)
  let coefficient := Nat.ofDigitChars 10 (whole ++ places) 0
  match Decimal.read? coefficient (exponent - places.length) with
  | some size => return (signed negative size, rest)
  | none => if negative then some (-1 / 0, rest) else none

/-- An infinity or what is no number, with a sign or without. -/
def special? (cs : List Char) : Option (Float × List Char) :=
  let (negative, cs) := sign cs
  let infinite := ("inf".toList.isPrefixOf? cs).map (1 / 0, ·)
  let notNumber := ("nan".toList.isPrefixOf? cs).map (0 / 0, ·)
  (infinite.or notNumber).map fun (size, rest) => (signed negative size, rest)

/-- A number or a moment. -/
def number? (cs : List Char) : Option (Value × List Char) :=
  match moment? cs with
  | some rest => some (.moment, rest)
  | none =>
    match (fraction? cs).or (special? cs) with
    | some (x, rest) => some (.fraction x, rest)
    | none =>
      ((basedInteger? cs).or (decimalInteger? cs)).map fun (n, rest) => (.integer n, rest)

end BoostZones.Toml
