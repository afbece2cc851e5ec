/-!
Blank characters and trimming. A character is blank when it has the Unicode property
White_Space; trimming takes the blank characters off both ends of a text and nothing else.
-/

namespace BoostZones.Text

/-- The characters with the property White_Space. -/
def isBlank (c : Char) : Bool :=
  let n := c.toNat
  (9 ≤ n && n ≤ 13) || n == 0x20 || n == 0x85 || n == 0xA0 || n == 0x1680
    || (0x2000 ≤ n && n ≤ 0x200A) || n == 0x2028 || n == 0x2029 || n == 0x202F
    || n == 0x205F || n == 0x3000

/-- The characters from the first that is not blank to the last that is not blank. -/
def trimChars (cs : List Char) : List Char :=
  ((cs.dropWhile isBlank).reverse.dropWhile isBlank).reverse

/-- The text without the blank characters at its ends. -/
def trim (text : String) : String :=
  String.ofList (trimChars text.toList)

/-- The text with the letters `A` to `Z` made small; every other character stays. -/
def lower (text : String) : String :=
  String.ofList (text.toList.map Char.toLower)

/-- Every character that core calls white space is blank. -/
theorem isBlank_of_isWhitespace {c : Char} (h : c.isWhitespace = true) : isBlank c = true := by
  simp only [Char.isWhitespace, Bool.or_eq_true, decide_eq_true_eq] at h
  rcases h with ((h | h) | h) | h <;> subst h <;> decide

@[simp] theorem trimChars_nil : trimChars [] = [] := rfl

end BoostZones.Text
