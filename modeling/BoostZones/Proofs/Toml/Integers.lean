import BoostZones.Toml.Reader

/-! Integers at the end of a line. Decimal digits without a leading zero are no date, no time of
day, no fraction and no integer with a base, so they are read as the number they are the digits of.
-/

namespace BoostZones.Toml

-------------------------------------------------------------------------------
-- Digits
-------------------------------------------------------------------------------

/-- The digits of a number begin with a zero only if it is the only one. The last digit goes with
the rest of the number, and the induction is on the number.
-/
theorem toDigits_begins (n : Nat)
    : Nat.toDigits 10 n = ['0']
      ∨ ∃ first more,
          Nat.toDigits 10 n = first :: more ∧ first ≠ '0' ∧ first.isDigit = true := by
  induction n using Nat.strongRecOn with
  | ind n ih =>
      rw [Nat.toDigits_eq_if (by decide)]
      split
      · next small =>
        have single : ∀ k < 10, k ≠ 0 → k.digitChar ≠ '0' ∧ k.digitChar.isDigit = true := by
          decide
        by_cases zero : n = 0
        · subst zero
          exact Or.inl rfl
        · exact Or.inr ⟨n.digitChar, [], rfl, single n small zero⟩
      · next large =>
        rcases ih (n / 10) (by omega) with zero | ⟨first, more, digits, begins⟩
        · have least : n / 10 = 0 := by
            have value := Nat.ofDigitChars_ten_toDigits (n := n / 10)
            rw [zero] at value
            exact value.symm
          omega
        · rw [digits]
          exact Or.inr ⟨first, more ++ [(n % 10).digitChar], rfl, begins⟩

theorem isDigit_toDigits (n : Nat) : ∀ c ∈ Nat.toDigits 10 n, c.isDigit = true :=
  fun _ member => Nat.isDigit_of_mem_toDigits (by decide) (by decide) member

theorem toDigits_eq_cons (n : Nat)
    : ∃ first more, Nat.toDigits 10 n = first :: more ∧ first.isDigit = true := by
  have filled : Nat.toDigits 10 n ≠ [] := Nat.toDigits_ne_nil
  obtain ⟨first, more, digits⟩ := List.exists_cons_of_ne_nil filled
  exact ⟨first, more, digits, isDigit_toDigits n first (digits ▸ List.mem_cons_self)⟩

theorem ne_of_isDigit {c d : Char} (digit : c.isDigit = true) (other : d.isDigit = false)
    : c ≠ d := by
  rintro rfl
  rw [digit] at other
  cases other

section Line
variable {digits : List Char} (all : ∀ c ∈ digits, c.isDigit = true) (after : List Char)

include all in
theorem digitRun_line
    : digitRun Char.isDigit (digits ++ '\n' :: after) = (digits, '\n' :: after) := by
  induction digits with
  | nil => rfl
  | cons c rest ih =>
      obtain ⟨digit, all⟩ := List.forall_mem_cons.1 all
      rw [List.cons_append, digitRun.eq_def]
      split
      · next absent => cases absent
      · next same =>
        obtain ⟨rfl, -⟩ := List.cons.inj same
        cases digit
      · next same =>
        obtain ⟨rfl, rfl⟩ := List.cons.inj same
        rw [if_pos digit, ih all]

include all in
/-- A digit or the end of the line is not what is expected. -/
theorem expect?_line {c : Char} (other : c.isDigit = false) (inside : c ≠ '\n')
    : expect? c (digits ++ '\n' :: after) = none := by
  cases digits with
  | nil => exact if_neg (Ne.symm inside)
  | cons first rest => exact if_neg (ne_of_isDigit (all first List.mem_cons_self) other)

include all in
/-- Behind some of the digits there are others or the end of the line. -/
theorem expect?_of_fixedDigits? {c : Char} (other : c.isDigit = false) (inside : c ≠ '\n')
    {count n : Nat} {rest : List Char}
    (read : fixedDigits? count (digits ++ '\n' :: after) = some (n, rest))
    : expect? c rest = none := by
  simp only [fixedDigits?, Option.ite_none_right_eq_some, List.all_eq_true] at read
  obtain ⟨⟨length, taken⟩, same⟩ := read
  cases same
  have enough : count ≤ digits.length := by
    refine Nat.le_of_not_lt fun short => ?_
    have below : digits.length < ((digits ++ '\n' :: after).take count).length := by omega
    have digit := taken _ (List.getElem_mem below)
    rw [List.getElem_take, List.getElem_append_right (Nat.le_refl _)] at digit
    simp at digit
  rw [List.drop_append_of_le_length enough]
  exact expect?_line (fun d member => all d (List.mem_of_mem_drop member)) after other inside

include all in
theorem date?_line : date? (digits ++ '\n' :: after) = none := by
  unfold date?
  cases read : fixedDigits? 4 (digits ++ '\n' :: after) with
  | none => rfl
  | some year =>
      obtain ⟨year, rest⟩ := year
      have stops := expect?_of_fixedDigits? all after (c := '-') rfl (by decide) read
      simp only [Option.bind_eq_bind, Option.bind_some, stops, Option.bind_none]

include all in
theorem time?_line : time? (digits ++ '\n' :: after) = none := by
  unfold time? twoDigits?
  cases read : fixedDigits? 2 (digits ++ '\n' :: after) with
  | none => rfl
  | some hour =>
      obtain ⟨hour, rest⟩ := hour
      have stops := expect?_of_fixedDigits? all after (c := ':') rfl (by decide) read
      simp only [Option.filter_some]
      split <;> simp [stops]

include all in
theorem moment?_line : moment? (digits ++ '\n' :: after) = none := by
  rw [moment?, date?_line all after, time?_line all after]

end Line

-------------------------------------------------------------------------------
-- Numbers
-------------------------------------------------------------------------------

section Number
variable (n : Nat) (after : List Char)

theorem wholeDigits?_line
    : wholeDigits? (Nat.toDigits 10 n ++ '\n' :: after)
      = some (Nat.toDigits 10 n, '\n' :: after) := by
  rcases toDigits_begins n with zero | ⟨first, more, digits, other, digit⟩
  · rw [zero]
    rfl
  · have run := digitRun_line (isDigit_toDigits n) after
    rw [digits, List.cons_append] at run ⊢
    unfold wholeDigits?
    split
    · next same =>
      obtain ⟨rfl, -⟩ := List.cons.inj same
      exact absurd rfl other
    · rw [digits?, if_pos digit, run]

theorem sign_of_isDigit {c : Char} (digit : c.isDigit = true) (rest : List Char)
    : sign (c :: rest) = (false, c :: rest) := by
  unfold sign
  split
  · next same => cases same; cases digit
  · next same => cases same; cases digit
  · rfl

theorem sign_line
    : sign (Nat.toDigits 10 n ++ '\n' :: after) = (false, Nat.toDigits 10 n ++ '\n' :: after) := by
  obtain ⟨first, more, digits, digit⟩ := toDigits_eq_cons n
  rw [digits, List.cons_append, sign_of_isDigit digit]

theorem fraction?_line : fraction? (Nat.toDigits 10 n ++ '\n' :: after) = none := by
  rw [fraction?, sign_line]
  simp only [wholeDigits?_line]
  rfl

/-- A word that does not begin with a digit is not found where one stands. -/
theorem isPrefixOf?_of_isDigit {c d : Char} {word rest : List Char} (letter : c.isDigit = false)
    (digit : d.isDigit = true)
    : (c :: word).isPrefixOf? (d :: rest) = none := by
  have other : ¬ (c == d) = true := by simpa using (ne_of_isDigit digit letter).symm
  exact if_neg other

theorem special?_line : special? (Nat.toDigits 10 n ++ '\n' :: after) = none := by
  rw [special?, sign_line]
  obtain ⟨first, more, digits, digit⟩ := toDigits_eq_cons n
  have infinite : "inf".toList.isPrefixOf? (first :: (more ++ '\n' :: after)) = none :=
    isPrefixOf?_of_isDigit rfl digit
  have notNumber : "nan".toList.isPrefixOf? (first :: (more ++ '\n' :: after)) = none :=
    isPrefixOf?_of_isDigit rfl digit
  simp only [digits, List.cons_append, infinite, notNumber]
  rfl

theorem basedInteger?_line : basedInteger? (Nat.toDigits 10 n ++ '\n' :: after) = none := by
  rcases toDigits_begins n with zero | ⟨first, more, digits, other, -⟩
  · rw [zero]
    rfl
  · rw [digits, List.cons_append]
    unfold basedInteger?
    split
    · next same =>
      obtain ⟨rfl, -⟩ := List.cons.inj same
      exact absurd rfl other
    · rfl

variable {n}

theorem decimalInteger?_line (fits : n < integerLimit)
    : decimalInteger? (Nat.toDigits 10 n ++ '\n' :: after)
      = some ((n : Int), '\n' :: after) := by
  rw [decimalInteger?, sign_line]
  simp [wholeDigits?_line, integer?, fits]

/-- A digit begins neither a text nor a truth value. -/
theorem readScalar_of_isDigit {c : Char} (digit : c.isDigit = true) (rest : List Char)
    : readScalar (c :: rest) = number? (c :: rest) := by
  have noTrue : "true".toList.isPrefixOf? (c :: rest) = none := isPrefixOf?_of_isDigit rfl digit
  have noFalse : "false".toList.isPrefixOf? (c :: rest) = none := isPrefixOf?_of_isDigit rfl digit
  unfold readScalar
  split
  · next quoted => cases quoted; cases digit
  · next quoted => cases quoted; cases digit
  · simp only [readBoolean, noTrue, noFalse, Option.none_or]

/-- The digits of a number that fits are read as it. -/
theorem readScalar_line (fits : n < integerLimit)
    : readScalar (Nat.toDigits 10 n ++ '\n' :: after) = some (.integer n, '\n' :: after) := by
  have number
      : number? (Nat.toDigits 10 n ++ '\n' :: after) = some (.integer n, '\n' :: after) := by
    rw [number?, moment?_line (isDigit_toDigits n), fraction?_line, special?_line,
      basedInteger?_line, decimalInteger?_line after fits]
    rfl
  obtain ⟨first, more, digits, digit⟩ := toDigits_eq_cons n
  rw [← number, digits, List.cons_append, readScalar_of_isDigit digit]

end Number

end BoostZones.Toml
