import BoostZones.Text.Numeral
import Mathlib.Data.List.Induction

/-! Numerals and the numbers that they stand for. The grammar of a numeral says nothing of words;
the reader takes just the numerals whose number fits one, with any count of leading zeros.
-/

namespace BoostZones.Text

/-- One or more ASCII digits, and the number that they stand for. -/
inductive IsDecimal : List Char → Nat → Prop
  | digit {c : Char} (digit : c.isDigit = true) : IsDecimal [c] (c.toNat - '0'.toNat)
  | more {cs : List Char} {n : Nat} {c : Char} (before : IsDecimal cs n)
    (digit : c.isDigit = true)
    : IsDecimal (cs ++ [c]) (10 * n + (c.toNat - '0'.toNat))

/-- Digits with a plus sign before them or without one, and the number that they stand for. -/
inductive IsNumeral : List Char → Nat → Prop
  | unsigned {cs : List Char} {n : Nat} (digits : IsDecimal cs n) : IsNumeral cs n
  | plus {cs : List Char} {n : Nat} (digits : IsDecimal cs n) : IsNumeral ('+' :: cs) n

-------------------------------------------------------------------------------
-- Digits
-------------------------------------------------------------------------------

/-- Digits have the value that they come to from the first to the last, by induction on how the
row of digits is made.
-/
theorem IsDecimal.value {cs : List Char} {n : Nat} (decimal : IsDecimal cs n)
    : cs ≠ [] ∧ (∀ c ∈ cs, c.isDigit = true) ∧ Nat.ofDigitChars 10 cs 0 = n := by
  induction decimal with
  | digit digit => exact ⟨by simp, by simpa using digit, by simp [Nat.ofDigitChars]⟩
  | more before digit ih =>
      obtain ⟨-, digits, value⟩ := ih
      refine ⟨by simp, ?_, ?_⟩
      · intro d member
        rcases List.mem_append.mp member with earlier | last
        · exact digits d earlier
        · simpa [List.mem_singleton.mp last] using digit
      · simp [Nat.ofDigitChars_append, Nat.ofDigitChars_cons, value]

/-- A row of digits stands for its value, by induction on the row from its last digit. -/
theorem isDecimal_ofDigitChars {cs : List Char} (filled : cs ≠ [])
    (digits : ∀ c ∈ cs, c.isDigit = true)
    : IsDecimal cs (Nat.ofDigitChars 10 cs 0) := by
  induction cs using List.reverseRecOn with
  | nil => exact absurd rfl filled
  | append_singleton before c ih =>
      have last : c.isDigit = true := digits c (by simp)
      by_cases only : before = []
      · subst only
        simpa [Nat.ofDigitChars] using IsDecimal.digit last
      · have earlier := ih only fun d member => digits d (List.mem_append_left _ member)
        simpa [Nat.ofDigitChars_append, Nat.ofDigitChars_cons] using earlier.more last

theorem isDecimal_iff {cs : List Char} {n : Nat}
    : IsDecimal cs n
      ↔ cs ≠ [] ∧ (∀ c ∈ cs, c.isDigit = true) ∧ Nat.ofDigitChars 10 cs 0 = n := by
  constructor
  · exact IsDecimal.value
  · rintro ⟨filled, digits, rfl⟩
    exact isDecimal_ofDigitChars filled digits

theorem isDecimal_toDigits (n : Nat) : IsDecimal (Nat.toDigits 10 n) n := by
  refine isDecimal_iff.mpr ⟨Nat.toDigits_ne_nil, ?_, Nat.ofDigitChars_ten_toDigits⟩
  exact fun c member => Nat.isDigit_of_mem_toDigits (by decide) (by decide) member

-------------------------------------------------------------------------------
-- Reading
-------------------------------------------------------------------------------

/-- A number is kept as the word of its size, if there is one. -/
theorem word_eq_some_iff {value : Nat} {n : UInt64}
    : (if value < wordLimit then some (UInt64.ofNat value) else none) = some n
      ↔ value = n.toNat := by
  have below : n.toNat < wordLimit := n.toNat_lt
  by_cases fits : value < wordLimit
  · have kept : (UInt64.ofNat value).toNat = value := UInt64.toNat_ofNat_of_lt' fits
    rw [if_pos fits, Option.some.injEq, ← UInt64.toNat_inj, kept]
  · simp only [if_neg fits]
    exact iff_of_false nofun fun same => fits (same ▸ below)

theorem readDigits?_eq_some_iff {cs : List Char} {n : UInt64}
    : readDigits? cs = some n ↔ IsDecimal cs n.toNat := by
  rw [isDecimal_iff, ← word_eq_some_iff]
  unfold readDigits?
  by_cases plain : cs ≠ [] ∧ ∀ c ∈ cs, c.isDigit = true
  · have accepted : (cs.isEmpty || !cs.all Char.isDigit) = false := by simpa using plain
    obtain ⟨filled, digits⟩ := plain
    simp only [accepted, Bool.false_eq_true, if_false]
    exact ⟨fun read => ⟨filled, digits, read⟩, fun decimal => decimal.2.2⟩
  · have refused : (cs.isEmpty || !cs.all Char.isDigit) = true := by
      simpa [or_iff_not_imp_left] using plain
    simp only [refused, if_true]
    exact iff_of_false nofun fun decimal => plain ⟨decimal.1, decimal.2.1⟩

/-- The reader takes just the numerals whose number fits a word. -/
theorem readCount?_eq_some_iff {cs : List Char} {n : UInt64}
    : readCount? cs = some n ↔ IsNumeral cs n.toNat := by
  unfold readCount?
  split
  · next digits =>
    rw [readDigits?_eq_some_iff]
    constructor
    · exact .plus
    · intro numeral
      cases numeral with
      | unsigned decimal =>
          have sign : '+'.isDigit = true := decimal.value.2.1 '+' (by simp)
          cases sign
      | plus decimal => exact decimal
  · next other =>
    rw [readDigits?_eq_some_iff]
    constructor
    · exact .unsigned
    · intro numeral
      cases numeral with
      | unsigned decimal => exact decimal
      | plus decimal => exact absurd rfl (other _)

theorem isNumeral_writeCount (n : UInt64) : IsNumeral (writeCount n).toList n.toNat := by
  have digits : (writeCount n).toList = Nat.toDigits 10 n.toNat := Nat.toList_repr
  rw [digits]
  exact .unsigned (isDecimal_toDigits n.toNat)

end BoostZones.Text
