import BoostZones.Proofs.Bins.Coverage
import BoostZones.Proofs.Sequence.Parts
import BoostZones.Proofs.Sequence.Reading
import Mathlib.Data.Nat.Digits.Defs

/-! Bins that are packed are read back. A word holds its row of bins as the digits of a number,
the first bin as the lowest digit; that is the word that the bins are set into one after the other.
So the words of packed bins hold a bin for every sample, and it is the bin that was packed.
-/

namespace BoostZones

-------------------------------------------------------------------------------
-- Words as numbers
-------------------------------------------------------------------------------

section Word
variable {bits : Nat} {row : List Nat}

theorem wordOf_eq_ofDigits : wordOf bits row = Nat.ofDigits (2 ^ bits) row := by
  rw [Nat.ofDigits_eq_foldr]
  rfl

variable (small : ∀ bin ∈ row, bin < 2 ^ bits)
include small

/-- A bin is the digit of its word at the bin's place. -/
theorem digit_wordOf {k : Nat} (inside : k < row.length)
    : (wordOf bits row >>> (k * bits)) % 2 ^ bits = row[k] := by
  have tail := Nat.ofDigits_div_pow_eq_ofDigits_drop k (Nat.two_pow_pos bits) row small
  rw [Nat.shiftRight_eq_div_pow, Nat.mul_comm, Nat.pow_mul, wordOf_eq_ofDigits, tail,
    List.drop_eq_getElem_cons inside, Nat.ofDigits_cons, Nat.add_mul_mod_self_left,
    Nat.mod_eq_of_lt (small _ (List.getElem_mem inside))]

theorem wordOf_lt (positive : 0 < bits) : wordOf bits row < 2 ^ (bits * row.length) := by
  rw [wordOf_eq_ofDigits, Nat.pow_mul]
  exact Nat.ofDigits_lt_base_pow_length (Nat.one_lt_two_pow (Nat.ne_of_gt positive)) small

end Word

-------------------------------------------------------------------------------
-- Words as bits
-------------------------------------------------------------------------------

/-- The bins of a row set into a word one after the other, each shifted to its place. -/
def orBins (bits first : Nat) (word : UInt64) (row : List Nat) : UInt64 :=
  (row.zipIdx first).foldl
    (fun word entry => word ||| UInt64.ofNat entry.1 <<< UInt64.ofNat (entry.2 * bits)) word

/-- A bin is set above the bins before it: it is small, and the others are shifted past it. -/
theorem wordOf_cons {bits bin : Nat} (small : bin < 2 ^ bits) (rest : List Nat)
    : wordOf bits (bin :: rest) = bin ||| wordOf bits rest <<< bits := by
  have sum : wordOf bits (bin :: rest) = bin + 2 ^ bits * wordOf bits rest := rfl
  rw [sum, Nat.add_comm, Nat.two_pow_add_eq_or_of_lt small, Nat.or_comm, Nat.shiftLeft_eq,
    Nat.mul_comm]

/-- A bin that ends within the word is not cut off when it is shifted to its place. -/
theorem toNat_shiftLeft {bits bin shift : Nat} (positive : 0 < bits) (small : bin < 2 ^ bits)
    (room : shift + bits ≤ 64)
    : (UInt64.ofNat bin <<< UInt64.ofNat shift).toNat = bin <<< shift := by
  have held : bin < 2 ^ 64 :=
    Nat.lt_of_lt_of_le small (Nat.pow_le_pow_right Nat.two_pos (by omega))
  have within : shift < 64 := by omega
  have place : shift < 2 ^ 64 := Nat.lt_trans within (by decide)
  have short : bin * 2 ^ shift < 2 ^ 64 :=
    calc bin * 2 ^ shift
        < 2 ^ bits * 2 ^ shift := Nat.mul_lt_mul_of_pos_right small (Nat.two_pow_pos _)
      _ = 2 ^ (bits + shift) := (Nat.pow_add ..).symm
      _ ≤ 2 ^ 64 := Nat.pow_le_pow_right Nat.two_pos (by omega)
  rw [UInt64.toNat_shiftLeft, UInt64.toNat_ofNat_of_lt' held, UInt64.toNat_ofNat_of_lt' place,
    Nat.mod_eq_of_lt within, Nat.shiftLeft_eq, Nat.mod_eq_of_lt short]

/-- A word is the same whether its bins are set into it or are the digits of a number, by induction
on the row.
-/
theorem toNat_orBins {bits first : Nat} {row : List Nat} (positive : 0 < bits)
    (small : ∀ bin ∈ row, bin < 2 ^ bits) (room : (first + row.length) * bits ≤ 64) (word : UInt64)
    : (orBins bits first word row).toNat = word.toNat ||| wordOf bits row <<< (first * bits) := by
  induction row generalizing first word with
  | nil => simp [orBins, wordOf]
  | cons bin rest ih =>
      obtain ⟨own, others⟩ := List.forall_mem_cons.1 small
      rw [List.length_cons, ← Nat.add_assoc, Nat.add_right_comm] at room
      have above : first * bits + bits ≤ 64 := by
        rw [← Nat.add_one_mul]
        exact Nat.le_trans (Nat.mul_le_mul_right _ (Nat.le_add_right ..)) room
      have next : orBins bits first word (bin :: rest)
          = orBins bits (first + 1)
              (word ||| UInt64.ofNat bin <<< UInt64.ofNat (first * bits)) rest := rfl
      rw [next, ih others room, UInt64.toNat_or, toNat_shiftLeft positive own above,
        wordOf_cons own, Nat.shiftLeft_or_distrib, ← Nat.shiftLeft_add, Nat.or_assoc,
        Nat.add_one_mul, Nat.add_comm bits]

-------------------------------------------------------------------------------
-- Packed bins
-------------------------------------------------------------------------------

theorem packBins_eq_ok_iff {bins : List Nat} {perWord : Nat} {words : Array UInt64}
    : packBins bins perWord = .ok words
      ↔ (perWord ≠ 0 ∧ perWord ≤ maxPerWord)
        ∧ (∀ bin ∈ bins, bin < 2 ^ bitsPerBin perWord)
        ∧ words
          = ((blocksOf perWord bins).map fun row =>
              UInt64.ofNat (wordOf (bitsPerBin perWord) row)).toArray := by
  unfold packBins
  split
  · next wrong =>
    refine iff_of_false nofun ?_
    rintro ⟨⟨packs, narrow⟩, -⟩
    exact wrong.elim packs (Nat.not_lt.2 narrow)
  · next right =>
    obtain ⟨packs, narrow⟩ := not_or.1 right
    have fits : bins.find? (Nat.pow 2 (bitsPerBin perWord) ≤ ·) = none
        ↔ ∀ bin ∈ bins, bin < 2 ^ bitsPerBin perWord := by
      simp
    dsimp only
    split
    · next bin found =>
      refine iff_of_false nofun ?_
      rintro ⟨-, small, -⟩
      rw [fits.2 small] at found
      cases found
    · next absent =>
      constructor
      · rintro ⟨⟩
        exact ⟨⟨packs, Nat.not_lt.1 narrow⟩, fits.1 absent, rfl⟩
      · rintro ⟨-, -, rfl⟩
        rfl

section Packed
variable {bins : List Nat} {perWord : Nat} {words : Array UInt64}
variable (packed : packBins bins perWord = .ok words)
include packed

/-- There are as many words as the samples need. -/
theorem size_of_packBins : words.size = wordCount bins.length perWord := by
  obtain ⟨⟨packs, -⟩, -, rfl⟩ := packBins_eq_ok_iff.1 packed
  rw [List.size_toArray, List.length_map, length_blocksOf (Nat.pos_of_ne_zero packs), wordCount,
    if_neg packs]

/-- The bins of a row are among those that are packed, so they are small. -/
theorem rowAt_lt_of_packBins (place : Nat)
    : ∀ bin ∈ rowAt bins perWord place, bin < 2 ^ bitsPerBin perWord := by
  obtain ⟨-, small, -⟩ := packBins_eq_ok_iff.1 packed
  intro bin member
  exact small bin (List.mem_of_mem_drop (List.mem_of_mem_take member))

theorem room_of_packBins (place : Nat)
    : bitsPerBin perWord * (rowAt bins perWord place).length ≤ 64 := by
  obtain ⟨⟨packs, -⟩, -⟩ := packBins_eq_ok_iff.1 packed
  refine Nat.le_trans (Nat.mul_le_mul_left _ (List.length_take_le ..)) ?_
  rw [Nat.mul_comm, mul_bitsPerBin (Nat.pos_of_ne_zero packs)]
  omega

/-- The word of a row is not cut off: its bins have no more bits than a word. -/
theorem toNat_wordOf (place : Nat)
    : (UInt64.ofNat (wordOf (bitsPerBin perWord) (rowAt bins perWord place))).toNat
      = wordOf (bitsPerBin perWord) (rowAt bins perWord place) := by
  obtain ⟨⟨packs, narrow⟩, -⟩ := packBins_eq_ok_iff.1 packed
  have room := room_of_packBins packed place
  replace packs := Nat.pos_of_ne_zero packs
  apply UInt64.toNat_ofNat_of_lt'
  calc wordOf (bitsPerBin perWord) (rowAt bins perWord place)
      < 2 ^ (bitsPerBin perWord * (rowAt bins perWord place).length) :=
        wordOf_lt (rowAt_lt_of_packBins packed place) (bitsPerBin_pos packs narrow)
    _ ≤ 2 ^ 64 := Nat.pow_le_pow_right Nat.two_pos room

/-- The bins before the end are in words, and a word holds the row of its place. -/
theorem getElem?_packBins {place : Nat} (held : place * perWord < bins.length)
    : words[place]?
      = some (UInt64.ofNat (wordOf (bitsPerBin perWord) (rowAt bins perWord place))) := by
  obtain ⟨⟨packs, -⟩, -, built⟩ := packBins_eq_ok_iff.1 packed
  rw [built, List.getElem?_toArray, List.getElem?_map,
    getElem?_blocksOf (Nat.pos_of_ne_zero packs), if_pos held, Option.map_some]

/-- A word of packed bins has them set into it one after the other, starting from an empty word. -/
theorem getElem?_packBins_eq_orBins {place : Nat} (held : place * perWord < bins.length)
    : words[place]? = some (orBins (bitsPerBin perWord) 0 0 (rowAt bins perWord place)) := by
  obtain ⟨⟨packs, narrow⟩, -⟩ := packBins_eq_ok_iff.1 packed
  have room := room_of_packBins packed place
  rw [Nat.mul_comm, ← Nat.zero_add (rowAt bins perWord place).length] at room
  have positive := bitsPerBin_pos (Nat.pos_of_ne_zero packs) narrow
  have whole := toNat_orBins positive (rowAt_lt_of_packBins packed place) room 0
  rw [Nat.zero_mul, Nat.shiftLeft_zero, UInt64.toNat_zero, Nat.zero_or] at whole
  rw [getElem?_packBins packed held, Option.some.injEq, ← UInt64.toNat_inj, whole,
    toNat_wordOf packed]

/-- The bin of a sample is the one that was packed for it. -/
theorem bin?_of_packBins {i : Nat} (below : i < bins.length)
    : (PackedBins.mk words perWord).bin? i = bins[i]? := by
  obtain ⟨⟨packs, -⟩, -⟩ := packBins_eq_ok_iff.1 packed
  have last := Nat.mod_lt i (Nat.pos_of_ne_zero packs)
  have place := Nat.div_add_mod' i perWord
  have inside : i % perWord < (rowAt bins perWord (i / perWord)).length := by
    rw [rowAt, List.length_take, List.length_drop]
    omega
  have word : words[i / perWord]? = _ := getElem?_packBins packed (by omega)
  have digit := digit_wordOf (rowAt_lt_of_packBins packed (i / perWord)) inside
  rw [PackedBins.bin?, if_neg packs, word, Option.map_some]
  dsimp only
  rw [toNat_wordOf packed]
  refine (congrArg some digit).trans ?_
  rw [← List.getElem?_eq_getElem inside, getElem?_rowAt _ last, place]

end Packed
end BoostZones
