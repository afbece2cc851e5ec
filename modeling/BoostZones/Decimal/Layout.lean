import BoostZones.Decimal.Shortest
import BoostZones.Decimal.Rounded

/-!
How a decimal is laid out as text. A layout says for which places of the point a number is
written without an exponent, what follows a whole number, and what stands for a double that is
no finite number. With an exponent, one digit comes before the point.
-/

namespace BoostZones.Decimal

structure Layout where
  /-- Numbers with this many digits before the point are written without an exponent. -/
  positional : Int → Bool
  /-- What is written after a whole number that has no exponent. -/
  wholeEnd : String
  /-- What stands for an infinity; the argument says whether it is the negative one. -/
  infinite : Bool → String
  notNumber : String
  /-- Which of two equally near shortest decimals is written. -/
  tie : Tie

/-- The names of the two infinities outside JSON. -/
def infinityName (negative : Bool) : String :=
  if negative then "-inf" else "inf"

/-- Never an exponent: `0.1`, `1`, `-0`. -/
def Layout.plain : Layout := ⟨fun _ => true, "", infinityName, "NaN", .up⟩

/-- Always an exponent: `1e-1`, `2.5e0`. -/
def Layout.scientific : Layout := ⟨fun _ => false, "", infinityName, "NaN", .up⟩

/-- A number in a JSON text: an exponent only for very small and very large values, a fraction
even when it is whole, and `null` for what JSON cannot write. -/
def Layout.json : Layout :=
  ⟨fun point => -5 < point && point ≤ 16, ".0", fun _ => "null", "null", .even⟩

/-- The text of a whole number with its sign. -/
def writeExponent (n : Int) : String :=
  if n < 0 then "-" ++ toString n.natAbs else toString n.natAbs

/-- The digits with the point after the first `point` of them, and zeros where digits lack. -/
def positionalDigits (digits : List Char) (point : Int) (wholeEnd : String) : String :=
  if point ≤ 0 then
    "0." ++ String.ofList (List.replicate (-point).toNat '0' ++ digits)
  else if digits.length ≤ point.toNat then
    String.ofList (digits ++ List.replicate (point.toNat - digits.length) '0') ++ wholeEnd
  else
    String.ofList (digits.take point.toNat) ++ "." ++ String.ofList (digits.drop point.toNat)

/-- The first digit, the others behind a point if there are any, and the exponent. -/
def scientificDigits (digits : List Char) (point : Int) : String :=
  String.ofList (digits.take 1)
    ++ (if digits.length ≤ 1 then "" else "." ++ String.ofList (digits.drop 1))
    ++ "e" ++ writeExponent (point - 1)

/-- The text of a decimal in a layout. -/
def Layout.write (layout : Layout) (d : Decimal) : String :=
  (if d.negative then "-" else "")
    ++ if layout.positional d.point then positionalDigits d.digits d.point layout.wholeEnd
       else scientificDigits d.digits d.point

/-- The text of a double: `choose` picks the decimal that stands for a finite one. -/
def Layout.writeFloat (layout : Layout) (choose : Bool → Nat → Int → Decimal) (x : Float)
    : String :=
  match Binary64.ofFloat x with
  | .finite negative m e => layout.write (choose negative m e)
  | .infinite negative => layout.infinite negative
  | .notNumber => layout.notNumber

/-- The text of a double by its shortest decimal. -/
def Layout.writeShortest (layout : Layout) (x : Float) : String :=
  layout.writeFloat (shortest layout.tie) x

/-- The shortest text without an exponent. -/
def plain (x : Float) : String :=
  Layout.plain.writeShortest x

/-- The shortest text with an exponent. -/
def scientific (x : Float) : String :=
  Layout.scientific.writeShortest x

/-- The text with an exponent and `places` digits after the point. -/
def fixed (places : Nat) (x : Float) : String :=
  Layout.scientific.writeFloat (rounded places) x

/-- The text of a number in JSON. -/
def json (x : Float) : String :=
  Layout.json.writeShortest x

end BoostZones.Decimal
