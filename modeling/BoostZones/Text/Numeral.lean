/-!
Decimal numerals of 64-bit counts. A numeral is an optional plus sign and one or more ASCII
digits; its value has to fit a 64-bit word. Reading undoes writing.
-/

namespace BoostZones.Text

/-- The least number that does not fit a 64-bit word. -/
def wordLimit : Nat := Nat.pow 2 64

/-- The value of a row of digits, if it is not empty, holds digits only and fits a word. -/
def readDigits? (cs : List Char) : Option UInt64 :=
  if cs.isEmpty || !cs.all Char.isDigit then none
  else
    let value := Nat.ofDigitChars 10 cs 0
    if value < wordLimit then some (UInt64.ofNat value) else none

/-- The value of a numeral with an optional plus sign. -/
def readCount? : List Char → Option UInt64
  | '+' :: digits => readDigits? digits
  | digits => readDigits? digits

/-- The digits of a count, with no leading zero. -/
def writeCount (n : UInt64) : String :=
  toString n.toNat

theorem readDigits?_toDigits (n : UInt64) : readDigits? (Nat.toDigits 10 n.toNat) = some n := by
  have value := Nat.ofDigitChars_toDigits (b := 10) (n := n.toNat) (by decide) (by decide)
  have fits : n.toNat < wordLimit := n.toNat_lt
  have digits : (Nat.toDigits 10 n.toNat).all Char.isDigit = true :=
    List.all_eq_true.2 fun c h => Nat.isDigit_of_mem_toDigits (by decide) (by decide) h
  have filled : (Nat.toDigits 10 n.toNat).isEmpty = false := by
    simp
  simp [readDigits?, value, fits, digits, filled]

end BoostZones.Text
