import BoostZones.Proofs.Bins.Packing

/-! The bits of packed words. An item of a word has its own run of neighbouring bits, so a bit
belongs to one item at most; the bits that belong to no packed item are padding, and packing
leaves them clear. With that, packing is told completely: when it succeeds, why it fails, and
what the words hold.
-/

namespace BoostZones

/-- A bit of a word; without the word it is clear. -/
def bitAt (words : Array UInt64) (place bit : Nat) : Bool :=
  words[place]?.any (·.toNat.testBit bit)

/-- Bit `bit` of word `place` is one of the bits of an item. -/
structure HasBit (perWord item place bit : Nat) : Prop where
  word : item / perWord = place
  low : item % perWord * bitsPerBin perWord ≤ bit
  high : bit < (item % perWord + 1) * bitsPerBin perWord

-------------------------------------------------------------------------------
-- The item of a bit
-------------------------------------------------------------------------------

namespace HasBit
variable {perWord item place bit : Nat}

/-- The item that a bit belongs to, if it belongs to one. -/
theorem item_eq (has : HasBit perWord item place bit)
    : item = place * perWord + bit / bitsPerBin perWord := by
  have offset : bit / bitsPerBin perWord = item % perWord :=
    Nat.div_eq_of_lt_le has.low has.high
  rw [offset, ← has.word, Nat.div_add_mod']

theorem below (packs : 1 ≤ perWord) (has : HasBit perWord item place bit)
    : bit < 64 - 64 % perWord := by
  have last : (item % perWord + 1) * bitsPerBin perWord ≤ perWord * bitsPerBin perWord :=
    Nat.mul_le_mul_right _ (Nat.mod_lt item packs)
  have high := has.high
  rw [mul_bitsPerBin packs] at last
  omega

end HasBit

theorem hasBit_of_lt {perWord bit : Nat} (packs : 1 ≤ perWord) (place : Nat)
    (inside : bit < 64 - 64 % perWord)
    : HasBit perWord (place * perWord + bit / bitsPerBin perWord) place bit := by
  rw [← mul_bitsPerBin packs] at inside
  have positive : 0 < bitsPerBin perWord :=
    Nat.pos_of_ne_zero fun zero => by simp [zero] at inside
  have offset : bit / bitsPerBin perWord < perWord :=
    Nat.div_lt_of_lt_mul (by rwa [Nat.mul_comm])
  have index : (place * perWord + bit / bitsPerBin perWord) % perWord
      = bit / bitsPerBin perWord := by
    rw [Nat.mul_comm, Nat.mul_add_mod, Nat.mod_eq_of_lt offset]
  refine ⟨?_, ?_, ?_⟩
  · rw [Nat.mul_comm, Nat.mul_add_div packs, Nat.div_eq_of_lt offset, Nat.add_zero]
  · rw [index]
    exact Nat.div_mul_le_self ..
  · rw [index]
    exact Nat.lt_mul_of_div_lt (Nat.lt_add_one _) positive

/-- The bits of an item are those of the bin that is read there. -/
theorem testBit_binAt (words : Array UInt64) {perWord item place bit : Nat} (packs : 1 ≤ perWord)
    (has : HasBit perWord item place bit)
    : ((PackedBins.mk words perWord).binAt item).testBit
        (bit - item % perWord * bitsPerBin perWord)
      = bitAt words place bit := by
  have low := has.low
  have high := has.high
  rw [Nat.add_one_mul] at high
  have inside : bit - item % perWord * bitsPerBin perWord < bitsPerBin perWord := by omega
  rw [PackedBins.binAt, PackedBins.bin?, if_neg (Nat.ne_of_gt packs), has.word, bitAt]
  cases words[place]? with
  | none => exact Nat.zero_testBit _
  | some word =>
      refine (Nat.testBit_mod_two_pow ..).trans ?_
      rw [decide_eq_true inside, Bool.true_and, Nat.testBit_shiftRight, Nat.add_sub_cancel' low,
        Option.any_some]

-------------------------------------------------------------------------------
-- Padding
-------------------------------------------------------------------------------

/-- A bit that no sample's item has: it belongs to an item past the last sample, or it is one of
the topmost bits, which are too few for one more item.
-/
def IsPadding (perWord samples place bit : Nat) : Prop :=
  (∃ item, samples ≤ item ∧ HasBit perWord item place bit) ∨ 64 - 64 % perWord ≤ bit

theorem isPadding_iff {perWord samples place bit : Nat} (packs : 1 ≤ perWord)
    : IsPadding perWord samples place bit
      ↔ ∀ item < samples, ¬HasBit perWord item place bit := by
  constructor
  · intro padding item inside has
    rcases padding with ⟨later, outside, other⟩ | top
    · have same : item = later := has.item_eq.trans other.item_eq.symm
      omega
    · exact absurd (has.below packs) (Nat.not_lt.2 top)
  · intro free
    by_cases top : 64 - 64 % perWord ≤ bit
    · exact Or.inr top
    · have has := hasBit_of_lt packs place (Nat.lt_of_not_le top)
      refine Or.inl ⟨_, Nat.le_of_not_lt fun inside => ?_, has⟩
      exact free _ inside has

section Packed
variable {bins : List Nat} {perWord : Nat} {words : Array UInt64}
variable (packed : packBins bins perWord = .ok words)
include packed

/-- Packing sets no bit that belongs to no packed item. -/
theorem bitAt_packBins_of_free {place bit : Nat}
    (free : ∀ item < bins.length, ¬HasBit perWord item place bit)
    : bitAt words place bit = false := by
  obtain ⟨⟨packs, narrow⟩, -⟩ := packBins_eq_ok_iff.1 packed
  replace packs := Nat.pos_of_ne_zero packs
  by_cases held : place * perWord < bins.length
  · have room : bitsPerBin perWord * (rowAt bins perWord place).length ≤ bit := by
      apply Nat.le_of_not_lt
      intro inside
      have offset : bit / bitsPerBin perWord < (rowAt bins perWord place).length :=
        Nat.div_lt_of_lt_mul inside
      have within : bit < 64 - 64 % perWord := by
        rw [← mul_bitsPerBin packs, Nat.mul_comm]
        exact Nat.lt_of_lt_of_le inside (Nat.mul_le_mul_left _ (List.length_take_le ..))
      refine free _ ?_ (hasBit_of_lt packs place within)
      rw [rowAt, List.length_take, List.length_drop] at offset
      omega
    have word := wordOf_lt (rowAt_lt_of_packBins packed place) (bitsPerBin_pos packs narrow)
    rw [bitAt, getElem?_packBins packed held, Option.any_some, toNat_wordOf packed]
    exact Nat.testBit_lt_two_pow (Nat.lt_of_lt_of_le word (Nat.pow_le_pow_right Nat.two_pos room))
  · have size := size_of_packBins packed
    have outside : words.size ≤ place := by
      apply Nat.le_of_not_lt
      rw [size, lt_wordCount_iff (Nat.ne_of_gt packs)]
      exact held
    rw [bitAt, Array.getElem?_eq_none outside, Option.any_none]

/-- What is read at the packed items is the list that was packed. -/
theorem map_binAt_packBins
    : (List.range bins.length).map (PackedBins.mk words perWord).binAt = bins := by
  apply List.ext_getElem
  · rw [List.length_map, List.length_range]
  · intro i _ below
    rw [List.getElem_map, List.getElem_range, PackedBins.binAt, bin?_of_packBins packed below,
      List.getElem?_eq_getElem below, Option.getD_some]

/-- There is a word for every packed item. -/
theorem covers_packBins : (PackedBins.mk words perWord).Covers bins.length := by
  obtain ⟨⟨packs, -⟩, -⟩ := packBins_eq_ok_iff.1 packed
  refine Or.inr ?_
  rw [size_of_packBins packed]
  exact le_wordCount_mul packs bins.length

end Packed

-------------------------------------------------------------------------------
-- What packing comes to
-------------------------------------------------------------------------------

/-- Why bins cannot be packed. -/
inductive Unpackable (bins : List Nat) (perWord : Nat) : ZoneError → Prop
  | count (wrong : ¬(1 ≤ perWord ∧ perWord ≤ 64))
    : Unpackable bins perWord
        (.invalidParameter ("c_pack fora de 1..=64: " ++ toString perWord))
  | wide {before after : List Nat} {bin : Nat} (right : 1 ≤ perWord ∧ perWord ≤ 64)
    (order : bins = before ++ bin :: after) (earlier : ∀ b ∈ before, b < 2 ^ (64 / perWord))
    (wide : 2 ^ (64 / perWord) ≤ bin)
    : Unpackable bins perWord
        (.invalidParameter
          ("bin " ++ toString bin ++ " não cabe em " ++ toString (64 / perWord) ++ " bits"))

/-- What the words of packed bins hold: the bins, and nothing else. -/
structure HoldsBins (words : Array UInt64) (perWord : Nat) (bins : List Nat) : Prop where
  size : words.size = (bins.length + perWord - 1) / perWord
  bin : ∀ i (below : i < bins.length), (PackedBins.mk words perWord).bin? i = some bins[i]
  clear : ∀ place bit, (∀ i < bins.length, ¬HasBit perWord i place bit)
    → bitAt words place bit = false
  greatest : (PackedBins.mk words perWord).maxBin? bins.length = some (bins.max?.getD 0)

section Packing
variable {bins : List Nat} {perWord : Nat}

theorem exists_packBins_iff
    : (∃ words, packBins bins perWord = .ok words)
      ↔ (1 ≤ perWord ∧ perWord ≤ 64) ∧ ∀ bin ∈ bins, bin < 2 ^ (64 / perWord) := by
  constructor
  · intro packable
    obtain ⟨words, packed⟩ := packable
    obtain ⟨⟨packs, narrow⟩, small, -⟩ := packBins_eq_ok_iff.1 packed
    rw [bitsPerBin, if_neg packs] at small
    exact ⟨⟨Nat.pos_of_ne_zero packs, narrow⟩, small⟩
  · intro fits
    obtain ⟨⟨packs, narrow⟩, small⟩ := fits
    rw [← bitsPerBin_eq packs] at small
    exact ⟨_, packBins_eq_ok_iff.2 ⟨⟨Nat.ne_of_gt packs, narrow⟩, small, rfl⟩⟩

theorem packBins_eq_error_iff {reason : ZoneError}
    : packBins bins perWord = .error reason ↔ Unpackable bins perWord reason := by
  constructor
  · intro failed
    unfold packBins at failed
    split at failed
    · next wrong =>
      cases failed
      refine .count fun right => ?_
      exact wrong.elim (Nat.ne_of_gt right.1) (Nat.not_lt.2 right.2)
    · next right =>
      obtain ⟨packs, narrow⟩ := not_or.1 right
      replace packs := Nat.pos_of_ne_zero packs
      dsimp only at failed
      rw [bitsPerBin_eq packs] at failed
      split at failed
      · next bin found =>
        cases failed
        obtain ⟨wide, before, after, order, earlier⟩ := List.find?_eq_some_iff_append.1 found
        refine .wide ⟨packs, Nat.not_lt.1 narrow⟩ order ?_ (of_decide_eq_true wide)
        intro b member
        simpa using earlier b member
      · cases failed
  · intro unpackable
    cases unpackable with
    | count wrong =>
        rw [packBins, if_pos]
        · rfl
        · by_cases zero : perWord = 0
          · exact Or.inl zero
          · exact Or.inr (Nat.lt_of_not_le fun narrow => wrong ⟨Nat.pos_of_ne_zero zero, narrow⟩)
    | @wide before after bin right order earlier wide =>
        have found : bins.find? (Nat.pow 2 (64 / perWord) ≤ ·) = some bin := by
          refine List.find?_eq_some_iff_append.2 ⟨decide_eq_true wide, before, after, order, ?_⟩
          intro b member
          simpa using earlier b member
        have passes : ¬(perWord = 0 ∨ maxPerWord < perWord) :=
          not_or.2 ⟨Nat.ne_of_gt right.1, Nat.not_lt.2 right.2⟩
        rw [packBins, if_neg passes, bitsPerBin_eq right.1]
        dsimp only
        rw [found]

theorem holdsBins_packBins {words : Array UInt64} (packed : packBins bins perWord = .ok words)
    : HoldsBins words perWord bins where
  size := by
    obtain ⟨⟨packs, -⟩, -⟩ := packBins_eq_ok_iff.1 packed
    rw [size_of_packBins packed, wordCount, if_neg packs]
  bin i below := by rw [bin?_of_packBins packed below, List.getElem?_eq_getElem below]
  clear place bit free := bitAt_packBins_of_free packed free
  greatest := by
    rw [PackedBins.maxBin?_eq_max? (covers_packBins packed), map_binAt_packBins packed,
      List.max?_cons]
    cases bins.max? with
    | none => rfl
    | some greatest => exact congrArg some (Nat.zero_max greatest)

end Packing

/-- Packing, told completely. It succeeds when the count of items is one that a word can have and
every bin has no more bits than an item; it fails for the count, or for the first bin that is
too wide; and packed words hold the bins and nothing else.
-/
theorem packBins_holds_bins (bins : List Nat) (perWord : Nat)
    : ((∃ words, packBins bins perWord = .ok words)
        ↔ (1 ≤ perWord ∧ perWord ≤ 64) ∧ ∀ bin ∈ bins, bin < 2 ^ (64 / perWord))
      ∧ (∀ reason, packBins bins perWord = .error reason ↔ Unpackable bins perWord reason)
      ∧ ∀ words, packBins bins perWord = .ok words → HoldsBins words perWord bins :=
  ⟨exists_packBins_iff, fun _ => packBins_eq_error_iff, fun _ packed => holdsBins_packBins packed⟩

/-- Three items of three bits: the last word has their 9 bits, and all others are clear. -/
theorem packBins_holds_three_bins
    : packBins [5, 2, 7] 21 = .ok #[469] ∧ HoldsBins #[469] 21 [5, 2, 7] := by
  have packed : packBins [5, 2, 7] 21 = .ok #[469] := by
    rw [packBins_eq_ok_iff]
    refine ⟨by decide, by decide, ?_⟩
    rw [blocksOf_eq_take_cons (by decide) (by decide)]
    simp [wordOf, bitsPerBin]
  exact ⟨packed, (packBins_holds_bins [5, 2, 7] 21).2.2 _ packed⟩

-------------------------------------------------------------------------------
-- Packing what was read
-------------------------------------------------------------------------------

/-- The same words with their padding cleared. -/
structure ClearsPadding (words repacked : Array UInt64) (perWord samples : Nat) : Prop where
  size : repacked.size = words.size
  padding : ∀ place bit, IsPadding perWord samples place bit → bitAt repacked place bit = false
  others : ∀ place bit, ¬IsPadding perWord samples place bit
    → bitAt repacked place bit = bitAt words place bit

section Repacked
variable {words : Array UInt64} {perWord samples : Nat}

/-- A bin that is read from a word has no more bits than an item. -/
theorem binAt_lt (packs : 1 ≤ perWord) (i : Nat)
    : (PackedBins.mk words perWord).binAt i < 2 ^ bitsPerBin perWord := by
  rw [PackedBins.binAt, PackedBins.bin?, if_neg (Nat.ne_of_gt packs)]
  cases words[i / perWord]? with
  | none => exact Nat.two_pow_pos _
  | some word => exact Nat.mod_lt _ (Nat.two_pow_pos _)

/-- The bins of any words can be packed again. -/
theorem exists_repacked (words : Array UInt64) (samples : Nat) (packs : 1 ≤ perWord)
    (narrow : perWord ≤ 64)
    : ∃ repacked,
        packBins ((List.range samples).map (PackedBins.mk words perWord).binAt) perWord
        = .ok repacked := by
  refine exists_packBins_iff.2 ⟨⟨packs, narrow⟩, fun bin member => ?_⟩
  obtain ⟨i, -, rfl⟩ := List.mem_map.1 member
  rw [← bitsPerBin_eq packs]
  exact binAt_lt packs i

variable {repacked : Array UInt64}
variable (packed : packBins ((List.range samples).map (PackedBins.mk words perWord).binAt) perWord
  = .ok repacked)
include packed

theorem binAt_repacked {i : Nat} (inside : i < samples)
    : (PackedBins.mk repacked perWord).binAt i = (PackedBins.mk words perWord).binAt i := by
  have below : i < ((List.range samples).map (PackedBins.mk words perWord).binAt).length := by
    rwa [List.length_map, List.length_range]
  rw [PackedBins.binAt, bin?_of_packBins packed below, List.getElem?_map,
    List.getElem?_range inside, Option.map_some, Option.getD_some]

theorem clearsPadding_repacked (packs : 1 ≤ perWord)
    (enough : words.size = wordCount samples perWord)
    : ClearsPadding words repacked perWord samples where
  size := by rw [size_of_packBins packed, List.length_map, List.length_range, enough]
  padding place bit padding := by
    refine bitAt_packBins_of_free packed fun item inside => ?_
    rw [List.length_map, List.length_range] at inside
    exact (isPadding_iff packs).1 padding item inside
  others place bit held := by
    simp only [isPadding_iff packs, not_forall, Classical.not_not, exists_prop] at held
    obtain ⟨item, inside, has⟩ := held
    rw [← testBit_binAt repacked packs has, binAt_repacked packed inside,
      testBit_binAt words packs has]

end Repacked

end BoostZones
