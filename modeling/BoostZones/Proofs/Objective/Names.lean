import BoostZones.Proofs.Session.Errors
import BoostZones.Proofs.Settings.Layers
import BoostZones.Proofs.Text.Numerals
import Mathlib.Algebra.Group.Nat.Defs

/-! The names of objectives. A name is one of four words, or a class count between the brackets of
`log_loss[..]`; with a count that is too small it is refused for the count, and whatever else is
written is not known. What is written of an objective, by itself or into settings, names it again.
-/

namespace BoostZones

namespace Text

/-- A text that neither begins nor ends with a blank stays as it is when it is trimmed. -/
theorem trimChars_eq_self {cs : List Char} (first : ∀ c ∈ cs.head?, isBlank c = false)
    (last : ∀ c ∈ cs.getLast?, isBlank c = false)
    : trimChars cs = cs := by
  have kept {ds : List Char} (begins : ∀ c ∈ ds.head?, isBlank c = false)
      : ds.dropWhile isBlank = ds := by
    cases ds with
    | nil => rfl
    | cons d rest => simp [begins d rfl]
  rw [trimChars, kept first, kept (by simpa using last), List.reverse_reverse]

theorem toLower_of_isDigit {c : Char} (digit : c.isDigit = true)
    : c.toLower = c := by
  have low : c.val ≤ '9'.val := by
    simp only [Char.isDigit, Bool.and_eq_true, decide_eq_true_eq] at digit
    exact digit.2
  have below : c.val < 'A'.val := UInt32.lt_of_le_of_lt low (by decide)
  exact dif_neg fun capital => UInt32.not_le.mpr below capital.1

end Text

namespace Objective

/-- The names without a class count. -/
def words : List String :=
  ["rmse", "poisson", "poisson_deviance", "log_loss"]

/-- The name of a classification with a class count in brackets. -/
def bracketed (numeral : String) : String :=
  "log_loss[" ++ numeral ++ "]"

-------------------------------------------------------------------------------
-- Brackets
-------------------------------------------------------------------------------

theorem toList_bracketed (numeral : String)
    : (bracketed numeral).toList = "log_loss[".toList ++ (numeral.toList ++ [']']) := by
  simp [bracketed, String.toList_append]

/-- The class count that stands in brackets. -/
def bracketedCount? (name : String) : Option UInt64 :=
  ("log_loss[".toList.isPrefixOf? name.toList).bind readClasses?

theorem bracketedCount?_eq_some_iff {name : String} {n : UInt64}
    : bracketedCount? name = some n
      ↔ ∃ numeral, name = bracketed numeral ∧ Text.IsNumeral numeral.toList n.toNat := by
  unfold bracketedCount? readClasses?
  simp only [Option.bind_eq_some_iff, List.isPrefixOf?_eq_some_iff_append_eq,
    List.isSuffixOf?_eq_some_iff_append_eq, Text.readCount?_eq_some_iff]
  constructor
  · intro read
    obtain ⟨rest, begins, digits, ends, numeral⟩ := read
    refine ⟨String.ofList digits, ?_, by simpa using numeral⟩
    apply String.toList_inj.mp
    simp [toList_bracketed, ← begins, ← ends]
  · intro written
    obtain ⟨numeral, rfl, stands⟩ := written
    exact ⟨_, (toList_bracketed numeral).symm, _, rfl, stands⟩

/-- There is no class count where brackets stand around no numeral, or around a number that is too
large.
-/
theorem bracketedCount?_eq_none_iff {name : String}
    : bracketedCount? name = none
      ↔ ∀ numeral n,
          name = bracketed numeral → Text.IsNumeral numeral.toList n → Text.wordLimit ≤ n := by
  simp only [Option.eq_none_iff_forall_ne_some, ne_eq, bracketedCount?_eq_some_iff]
  constructor
  · intro absent numeral n named stands
    by_contra fits
    have kept : (UInt64.ofNat n).toNat = n :=
      UInt64.toNat_ofNat_of_lt' (Nat.lt_of_not_le fits)
    exact absent (UInt64.ofNat n) ⟨numeral, named, kept.symm ▸ stands⟩
  · intro wide n found
    obtain ⟨numeral, named, stands⟩ := found
    exact absurd n.toNat_lt (Nat.not_lt.mpr (wide numeral _ named stands))

-------------------------------------------------------------------------------
-- Reading
-------------------------------------------------------------------------------

/-- A name with a class count is checked for the count. -/
theorem parseName_of_count {name : String} {n : UInt64}
    (count : bracketedCount? name = some n)
    : parseName name = (do (logLoss n).validate; return logLoss n) := by
  obtain ⟨rest, begins, read⟩ := Option.bind_eq_some_iff.mp count
  unfold parseName
  simp only [begins, read]

/-- Without a class count only the words are names. -/
theorem parseName_of_no_count {name : String} (absent : bracketedCount? name = none)
    : parseName name
      = if name = "rmse" then .ok .rmse
        else if name = "log_loss" then .ok binary
        else if name = "poisson_deviance" ∨ name = "poisson" then .ok .poissonDeviance
        else .error (.unknownObjective name) := by
  unfold parseName
  split
  · next rest begins =>
    have unread : readClasses? rest = none := by
      rwa [bracketedCount?, begins, Option.bind_some] at absent
    have other (word : String) (plain : "log_loss[".toList.isPrefixOf? word.toList = none)
        : name ≠ word := by
      rintro rfl
      rw [plain] at begins
      cases begins
    simp only [unread]
    rw [if_neg (other _ rfl), if_neg (other _ rfl), if_neg]
    exact not_or.mpr ⟨other _ rfl, other _ rfl⟩
  · rfl

/-- What a name is read as that is trimmed and in small letters. -/
inductive ReadAs : String → Except ObjectiveError Objective → Prop
  | rmse : ReadAs "rmse" (.ok .rmse)
  | poisson : ReadAs "poisson" (.ok .poissonDeviance)
  | poissonDeviance : ReadAs "poisson_deviance" (.ok .poissonDeviance)
  | twoClasses : ReadAs "log_loss" (.ok (.logLoss 2))
  | classes {numeral : String} {n : UInt64} (stands : Text.IsNumeral numeral.toList n.toNat)
    (several : 2 ≤ n)
    : ReadAs (bracketed numeral) (.ok (.logLoss n))
  | tooFew {numeral : String} {n : UInt64} (stands : Text.IsNumeral numeral.toList n.toNat)
    (few : n < 2)
    : ReadAs (bracketed numeral) (.error (.tooFew n))
  | unknown {name : String} (word : name ∉ words)
    (count : ∀ numeral n,
      name = bracketed numeral → Text.IsNumeral numeral.toList n → Text.wordLimit ≤ n)
    : ReadAs name (.error (.unknownObjective name))

/-- Every name is read by the grammar: its class count is told first, and the words only apply to a
name without one.
-/
theorem readAs_parseName (name : String) : ReadAs name (parseName name) := by
  cases count : bracketedCount? name with
  | some n =>
      obtain ⟨numeral, rfl, stands⟩ := bracketedCount?_eq_some_iff.mp count
      rw [parseName_of_count count]
      by_cases few : n < 2
      · simpa [validate, few, ObjectiveError.tooFew] using ReadAs.tooFew stands few
      · simpa [validate, few] using ReadAs.classes stands (UInt64.not_lt.mp few)
  | none =>
      rw [parseName_of_no_count count]
      split
      · next same => exact same ▸ .rmse
      split
      · next same => exact same ▸ .twoClasses
      split
      · next same => exact same.elim (· ▸ .poissonDeviance) (· ▸ .poisson)
      · next first second third =>
        have word : name ∉ words := by
          simp [words, first, second, not_or.mp third]
        exact .unknown word (bracketedCount?_eq_none_iff.mp count)

/-- The grammar reads a name in one way. -/
theorem ReadAs.parseName_eq {name : String} {result : Except ObjectiveError Objective}
    (reading : ReadAs name result)
    : parseName name = result := by
  have counted {numeral : String} {n : UInt64} (stands : Text.IsNumeral numeral.toList n.toNat)
      : bracketedCount? (bracketed numeral) = some n :=
    bracketedCount?_eq_some_iff.mpr ⟨numeral, rfl, stands⟩
  cases reading with
  | rmse => rfl
  | poisson => rfl
  | poissonDeviance => rfl
  | twoClasses => rfl
  | @classes _ n stands several =>
      have enough : ¬ n < 2 := UInt64.not_lt.mpr several
      simp [parseName_of_count (counted stands), validate, enough]
  | @tooFew _ n stands few =>
      simp [parseName_of_count (counted stands), validate, few, ObjectiveError.tooFew]
  | unknown word count =>
      have uncounted := bracketedCount?_eq_none_iff.mpr count
      simp only [words, List.mem_cons, List.not_mem_nil, or_false, not_or] at word
      simp [parseName_of_no_count uncounted, word]

/-- What a name is read as is told by the grammar. -/
theorem parseName_eq_iff {name : String} {result : Except ObjectiveError Objective}
    : parseName name = result ↔ ReadAs name result :=
  ⟨fun same => same ▸ readAs_parseName name, ReadAs.parseName_eq⟩

theorem parseName_eq_ok_rmse_iff {name : String}
    : parseName name = .ok .rmse ↔ name = "rmse" := by
  rw [parseName_eq_iff]
  constructor
  · intro reading
    cases reading
    rfl
  · intro same
    exact same ▸ .rmse

theorem parseName_eq_ok_poisson_iff {name : String}
    : parseName name = .ok .poissonDeviance ↔ name = "poisson" ∨ name = "poisson_deviance" := by
  rw [parseName_eq_iff]
  constructor
  · intro reading
    cases reading with
    | poisson => exact .inl rfl
    | poissonDeviance => exact .inr rfl
  · intro same
    exact same.elim (· ▸ .poisson) (· ▸ .poissonDeviance)

theorem parseName_eq_ok_logLoss_iff {name : String} {n : UInt64}
    : parseName name = .ok (.logLoss n)
      ↔ (name = "log_loss" ∧ n = 2)
        ∨ ∃ numeral,
            name = bracketed numeral ∧ Text.IsNumeral numeral.toList n.toNat ∧ 2 ≤ n.toNat := by
  rw [parseName_eq_iff]
  constructor
  · intro reading
    cases reading with
    | twoClasses => exact .inl ⟨rfl, rfl⟩
    | classes stands several =>
        exact .inr ⟨_, rfl, stands, UInt64.le_iff_toNat_le.mp several⟩
  · intro named
    rcases named with ⟨rfl, rfl⟩ | ⟨numeral, rfl, stands, several⟩
    · exact .twoClasses
    · exact .classes stands (UInt64.le_iff_toNat_le.mpr several)

theorem parseName_eq_invalidParameter_iff {name reason : String}
    : parseName name = .error (.invalidParameter reason)
      ↔ ∃ numeral n,
          name = bracketed numeral
          ∧ Text.IsNumeral numeral.toList n
          ∧ n < 2
          ∧ reason = "log_loss exige ao menos 2 classes, recebeu " ++ toString n := by
  rw [parseName_eq_iff]
  constructor
  · intro reading
    cases reading with
    | tooFew stands few => exact ⟨_, _, rfl, stands, UInt64.lt_iff_toNat_lt.mp few, rfl⟩
  · intro named
    obtain ⟨numeral, n, rfl, stands, few, rfl⟩ := named
    have kept : (UInt64.ofNat n).toNat = n :=
      UInt64.toNat_ofNat_of_lt' (Nat.lt_trans few (by decide))
    have reading : ReadAs (bracketed numeral) (.error (.tooFew (UInt64.ofNat n))) :=
      .tooFew (kept.symm ▸ stands) (UInt64.lt_iff_toNat_lt.mpr (kept.symm ▸ few))
    rwa [ObjectiveError.tooFew, Text.writeCount, kept] at reading

theorem parseName_eq_unknownObjective_iff {name told : String}
    : parseName name = .error (.unknownObjective told)
      ↔ told = name
        ∧ name ∉ words
        ∧ ∀ numeral n,
            name = bracketed numeral → Text.IsNumeral numeral.toList n → Text.wordLimit ≤ n := by
  rw [parseName_eq_iff]
  constructor
  · intro reading
    cases reading with
    | unknown word count => exact ⟨rfl, word, count⟩
  · intro named
    obtain ⟨rfl, word, count⟩ := named
    exact .unknown word count

theorem parseName_cases (name : String)
    : (∃ o, parseName name = .ok o)
      ∨ (∃ reason, parseName name = .error (.invalidParameter reason))
      ∨ parseName name = .error (.unknownObjective name) := by
  have reading := readAs_parseName name
  generalize parseName name = result at reading ⊢
  cases reading with
  | rmse | poisson | poissonDeviance | twoClasses | classes => exact .inl ⟨_, rfl⟩
  | tooFew => exact .inr (.inl ⟨_, rfl⟩)
  | unknown => exact .inr (.inr rfl)

-------------------------------------------------------------------------------
-- Writing
-------------------------------------------------------------------------------

/-- A class count in brackets has no blanks at its ends and no capital letters. -/
theorem lower_trim_bracketed (n : UInt64)
    : Text.lower (Text.trim (bracketed (Text.writeCount n)))
      = bracketed (Text.writeCount n) := by
  have trimmed
      : Text.trimChars (bracketed (Text.writeCount n)).toList
        = (bracketed (Text.writeCount n)).toList := by
    rw [toList_bracketed]
    refine Text.trimChars_eq_self ?_ ?_
    · intro c first
      cases first
      decide
    · intro c last
      rw [← List.append_assoc, List.getLast?_concat] at last
      cases last
      decide
  have kept : (Text.writeCount n).toList.map Char.toLower = (Text.writeCount n).toList := by
    refine (List.map_congr_left ?_).trans (List.map_id _)
    intro c member
    have digits : (Text.writeCount n).toList = Nat.toDigits 10 n.toNat := Nat.toList_repr
    rw [digits] at member
    exact Text.toLower_of_isDigit
      (Nat.isDigit_of_mem_toDigits (by decide) (by decide) member)
  have small : (bracketed (Text.writeCount n)).toList.map Char.toLower
      = (bracketed (Text.writeCount n)).toList := by
    rw [toList_bracketed, List.map_append, List.map_append, kept]
    rfl
  unfold Text.lower Text.trim
  rw [trimmed, String.toList_ofList, small, String.ofList_toList]

/-- What is written of an objective names it again exactly when it is valid. -/
theorem parse_display_iff (o : Objective)
    : parse o.display = .ok o ↔ o.validate = .ok () := by
  constructor
  · exact Settings.validate_of_parse
  · intro valid
    cases o with
    | rmse => rfl
    | poissonDeviance => rfl
    | logLoss classes =>
        have several := (validate_eq_ok_iff _).mp valid classes rfl
        by_cases wide : 2 < classes
        · have written
              : (logLoss classes).display = bracketed (Text.writeCount classes) := if_pos wide
          rw [parse, written, lower_trim_bracketed, parseName_eq_iff]
          exact .classes (Text.isNumeral_writeCount classes) several
        · have two : classes = 2 := UInt64.le_antisymm (UInt64.not_lt.mp wide) several
          subst two
          rfl

/-- The names that an objective is read from, of all texts: a word, or a numeral between brackets. A
numeral has digits alone, with any leading zeros and at most one plus sign, and no blanks around
them; one that no word can hold makes the name unknown, and is not taken for another count. The
brackets stand first, so a count of `0` or `1` is told as such. What is written of an objective, or
laid into any settings, names just that objective if it can be used.
-/
theorem parse_follows_grammar (text : String)
    : let name := Text.lower (Text.trim text)
      (parse text = .ok .rmse ↔ name = "rmse")
      ∧ (parse text = .ok .poissonDeviance ↔ name = "poisson" ∨ name = "poisson_deviance")
      ∧ (∀ n,
          parse text = .ok (.logLoss n)
          ↔ (name = "log_loss" ∧ n = 2)
            ∨ ∃ numeral,
                name = "log_loss[" ++ numeral ++ "]"
                ∧ Text.IsNumeral numeral.toList n.toNat
                ∧ 2 ≤ n.toNat)
      ∧ (∀ reason,
          parse text = .error (.invalidParameter reason)
          ↔ ∃ numeral n,
              name = "log_loss[" ++ numeral ++ "]"
              ∧ Text.IsNumeral numeral.toList n
              ∧ n < 2
              ∧ reason = "log_loss exige ao menos 2 classes, recebeu " ++ toString n)
      ∧ (∀ told,
          parse text = .error (.unknownObjective told)
          ↔ told = name
            ∧ name ∉ ["rmse", "poisson", "poisson_deviance", "log_loss"]
            ∧ ∀ numeral n,
                name = "log_loss[" ++ numeral ++ "]"
                → Text.IsNumeral numeral.toList n
                → 2 ^ 64 ≤ n)
      ∧ ((∃ o, parse text = .ok o)
          ∨ (∃ reason, parse text = .error (.invalidParameter reason))
          ∨ parse text = .error (.unknownObjective name))
      ∧ (∀ o : Objective, parse o.display = .ok o ↔ o.validate = .ok ())
      ∧ ∀ (o : Objective) (s : Settings),
          (s.withObjective o).learned = .ok o ↔ o.validate = .ok () := by
  refine ⟨parseName_eq_ok_rmse_iff, parseName_eq_ok_poisson_iff,
    fun _ => parseName_eq_ok_logLoss_iff, fun _ => parseName_eq_invalidParameter_iff,
    fun _ => parseName_eq_unknownObjective_iff, parseName_cases _, parse_display_iff, ?_⟩
  intro o s
  exact ⟨Settings.validate_of_learned, fun valid => Settings.learned_withObjective valid s⟩

/-- Signs, leading zeros, capitals and blanks around a name do not matter. -/
example : parse " Log_Loss[+007]\n" = .ok (.logLoss 7) := rfl

end Objective
end BoostZones
