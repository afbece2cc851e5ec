import BoostZones.Sequence.Blocks
import BoostZones.Zone.Error

/-!
Packed bins. The bins of a feature are packed several to a 64-bit word: with `perWord` to a
word, each has `64 / perWord` bits, and the bin of sample `i` is item `i % perWord` of word
`i / perWord`, low bits first. Without a feature there are no words and every bin is zero.
-/

namespace BoostZones

/-- The greatest number of bins in a word: one bit each. -/
def maxPerWord : Nat := 64

/-- Bits of one bin. -/
def bitsPerBin (perWord : Nat) : Nat :=
  if perWord = 0 then 0 else 64 / perWord

/-- Words that hold `samples` bins. -/
def wordCount (samples perWord : Nat) : Nat :=
  if perWord = 0 then 0 else (samples + perWord - 1) / perWord

structure PackedBins where
  words : Array UInt64
  perWord : Nat

namespace PackedBins

/-- The bins without a feature. -/
def none : PackedBins := ⟨#[], 0⟩

/-- The bin of sample `i`, if there is a word for it. -/
def bin? (b : PackedBins) (i : Nat) : Option Nat :=
  if b.perWord = 0 then some 0
  else
    b.words[i / b.perWord]?.map fun word =>
      let bits := bitsPerBin b.perWord
      (word.toNat >>> (i % b.perWord * bits)) % Nat.pow 2 bits

/-- The greatest bin of the first `samples` samples, zero when there are none, if there are
words for all of them. -/
def maxBin? (b : PackedBins) (samples : Nat) : Option Nat :=
  if b.perWord = 0 then some 0
  else if b.words.size * b.perWord < samples then .none
  else (List.range samples).foldlM (fun greatest i => (b.bin? i).map (max greatest)) 0

@[simp] theorem bin?_none (i : Nat) : PackedBins.none.bin? i = some 0 := rfl

end PackedBins

/-- The word of a row of bins, the first in the low bits. -/
def wordOf (bits : Nat) (bins : List Nat) : Nat :=
  bins.foldr (fun bin rest => bin + Nat.pow 2 bits * rest) 0

/-- Packs bins into words. The error names the first bin that needs too many bits. -/
def packBins (bins : List Nat) (perWord : Nat) : Except ZoneError (Array UInt64) :=
  if perWord = 0 ∨ maxPerWord < perWord then
    .error (.invalidParameter
      ("c_pack fora de 1..=" ++ toString maxPerWord ++ ": " ++ toString perWord))
  else
    let bits := bitsPerBin perWord
    match bins.find? (Nat.pow 2 bits ≤ ·) with
    | some bin =>
      .error (.invalidParameter
        ("bin " ++ toString bin ++ " não cabe em " ++ toString bits ++ " bits"))
    | none => .ok ((blocksOf perWord bins).map fun row => UInt64.ofNat (wordOf bits row)).toArray

end BoostZones
