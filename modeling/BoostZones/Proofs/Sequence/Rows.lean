import BoostZones.Sequence.Blocks
import BoostZones.Sequence.Window

/-!
Buffers as rows. A buffer of `n * width` entries is `n` rows of the same width, one after the
other. Windows that start and end between rows are rows again, blocks of a multiple of the width
are blocks of rows, and a loop that replaces row after row has, after `k` steps, `k` new rows
followed by what was there before.
-/

namespace BoostZones

/-- What is written replaces as many entries, and nothing moves. -/
theorem toList_overwrite (buffer : Array α) (start : Nat) (xs : List α)
    (inside : start + xs.length ≤ buffer.size)
    : (overwrite buffer start xs).toList
      = buffer.toList.take start ++ xs ++ buffer.toList.drop (start + xs.length) := by
  apply List.ext_getElem?
  intro i
  rw [Array.getElem?_toList, getElem?_overwrite buffer start xs i inside, List.append_assoc]
  have before : (buffer.toList.take start).length = start := by
    rw [List.length_take, Array.length_toList]
    omega
  by_cases early : i < start
  · rw [if_neg (by omega), List.getElem?_append_left (by omega), List.getElem?_take_of_lt early,
      Array.getElem?_toList]
  · rw [List.getElem?_append_right (by omega), before]
    by_cases within : i < start + xs.length
    · rw [if_pos ⟨by omega, within⟩, List.getElem?_append_left (by omega)]
    · rw [if_neg (by omega), List.getElem?_append_right (by omega), List.getElem?_drop,
        Array.getElem?_toList]
      congr 1
      omega

/-- Writing the beginning of a buffer over itself changes nothing. -/
theorem overwrite_extract (buffer : Array α) (length : Nat)
    : overwrite buffer 0 (buffer.extract 0 length).toList = buffer := by
  apply Array.toList_inj.1
  rw [toList_overwrite]
  · simp only [Array.toList_extract, List.extract_eq_take_drop, Nat.sub_zero, List.drop_zero,
      List.take_zero, List.nil_append, Nat.zero_add, List.length_take, Array.length_toList]
    rcases Nat.le_total length buffer.size with short | long
    · rw [Nat.min_eq_left short, List.take_append_drop]
    · rw [List.take_of_length_le (by simpa using long), Nat.min_eq_right long]
      simp
  · rw [Nat.zero_add, Array.length_toList, Array.size_extract]
    omega

/-- Row `i` of a list that is made of rows of this width. -/
def rowAt (xs : List α) (width i : Nat) : List α :=
  (xs.drop (i * width)).take width

theorem length_rowAt {xs : List α} {width i : Nat} (held : (i + 1) * width ≤ xs.length)
    : (rowAt xs width i).length = width := by
  rw [Nat.add_one_mul] at held
  simp only [rowAt, List.length_take, List.length_drop]
  omega

theorem length_flatMap_rows {width : Nat} (members : List ι) (row : ι → List α)
    (uniform : ∀ i ∈ members, (row i).length = width)
    : (members.flatMap row).length = members.length * width := by
  induction members with
  | nil => simp
  | cons i rest ih =>
      have first := uniform i (by simp)
      have later := ih fun j member => uniform j (by simp [member])
      rw [List.flatMap_cons, List.length_append, first, later, List.length_cons, Nat.add_one_mul]
      omega

theorem flatMap_rowAt (xs : List α) (width first count : Nat)
    (held : (first + count) * width ≤ xs.length)
    : (List.range' first count).flatMap (rowAt xs width)
      = (xs.drop (first * width)).take (count * width) := by
  induction count generalizing first with
  | zero => simp
  | succ count ih =>
      have later := ih (first + 1) (by rwa [Nat.add_assoc, Nat.add_comm 1])
      have next : (first + 1) * width = first * width + width := Nat.add_one_mul ..
      have total : (count + 1) * width = width + count * width := by
        rw [Nat.add_one_mul, Nat.add_comm]
      rw [List.range'_succ, List.flatMap_cons, later, next, total, List.take_add, List.drop_drop]
      rfl

theorem flatMap_rowAt_range {xs : List α} {width n : Nat} (size : xs.length = n * width)
    : (List.range n).flatMap (rowAt xs width) = xs := by
  rw [List.range_eq_range', flatMap_rowAt xs width 0 n (by simp [size])]
  simp [← size]

theorem window?_rows (buffer : Array α) (width first count : Nat)
    (held : (first + count) * width ≤ buffer.size)
    : window? buffer (first * width) (count * width)
      = some ((List.range' first count).flatMap (rowAt buffer.toList width)) := by
  rw [Nat.add_mul] at held
  rw [window?_eq_some_iff]
  refine ⟨held, (flatMap_rowAt _ width first count ?_).symm⟩
  rw [Nat.add_mul]
  exact held

-------------------------------------------------------------------------------
-- Replacing row after row
-------------------------------------------------------------------------------

/-- A buffer of rows in which the first `k` rows are new. -/
def refill (buffer : Array α) (width : Nat) (row : Nat → List α) (k : Nat) : Array α :=
  ((List.range k).flatMap row ++ buffer.toList.drop (k * width)).toArray

section Refill
variable {buffer : Array α} {width n : Nat} {row : Nat → List α}

@[simp] theorem refill_zero : refill buffer width row 0 = buffer := by
  simp [refill]

theorem size_refill (size : buffer.size = n * width)
    (uniform : ∀ i < n, (row i).length = width) {k : Nat} (held : k ≤ n)
    : (refill buffer width row k).size = n * width := by
  have new := length_flatMap_rows (List.range k) row fun i member =>
    uniform i (Nat.lt_of_lt_of_le (List.mem_range.1 member) held)
  have bound : k * width ≤ n * width := Nat.mul_le_mul_right width held
  simp only [refill, List.size_toArray, List.length_append, new, List.length_range,
    List.length_drop, Array.length_toList, size]
  omega

theorem drop_refill (uniform : ∀ i < n, (row i).length = width) {k : Nat} (held : k ≤ n)
    : (refill buffer width row k).toList.drop (k * width) = buffer.toList.drop (k * width) := by
  have new := length_flatMap_rows (List.range k) row fun i member =>
    uniform i (Nat.lt_of_lt_of_le (List.mem_range.1 member) held)
  rw [List.length_range] at new
  rw [refill, ← new, List.drop_left]

/-- The window of the next rows holds the old ones. -/
theorem window?_refill (size : buffer.size = n * width)
    (uniform : ∀ i < n, (row i).length = width) {k count : Nat} (held : k + count ≤ n)
    : window? (refill buffer width row k) (k * width) (count * width)
      = some ((List.range' k count).flatMap (rowAt buffer.toList width)) := by
  have bound : (k + count) * width ≤ n * width := Nat.mul_le_mul_right width held
  rw [flatMap_rowAt _ width k count (by rw [Array.length_toList, size]; exact bound),
    window?_eq_some_iff, size_refill size uniform (by omega),
    drop_refill uniform (by omega)]
  exact ⟨by rw [← Nat.add_mul]; exact bound, rfl⟩

theorem overwrite_refill (size : buffer.size = n * width)
    (uniform : ∀ i < n, (row i).length = width) {k count : Nat} (held : k + count ≤ n)
    : overwrite (refill buffer width row k) (k * width) ((List.range' k count).flatMap row)
      = refill buffer width row (k + count) := by
  have new := length_flatMap_rows (List.range k) row fun i member =>
    uniform i (by have := List.mem_range.1 member; omega)
  have next := length_flatMap_rows (List.range' k count) row fun i member =>
    uniform i (by have := List.mem_range'_1.1 member; omega)
  rw [List.length_range] at new
  rw [List.length_range'] at next
  have bound : (k + count) * width ≤ n * width := Nat.mul_le_mul_right width held
  apply Array.toList_inj.1
  rw [toList_overwrite, next, ← Nat.add_mul]
  · have prefixes : (refill buffer width row k).toList.take (k * width)
        = (List.range k).flatMap row := by
      rw [refill, ← new, List.take_left]
    have rest : (refill buffer width row k).toList.drop ((k + count) * width)
        = buffer.toList.drop ((k + count) * width) := by
      rw [Nat.add_mul, ← List.drop_drop, drop_refill uniform (by omega), List.drop_drop]
    rw [prefixes, rest, refill, List.range_eq_range', List.range_eq_range',
      ← List.range'_append_1 (s := 0), List.flatMap_append, Nat.zero_add]
  · rw [next, size_refill size uniform (by omega), ← Nat.add_mul]
    exact bound

/-- When all rows are new, nothing of the old buffer is left. -/
theorem refill_all (size : buffer.size = n * width)
    : refill buffer width row n = ((List.range n).flatMap row).toArray := by
  have short : buffer.toList.length ≤ n * width := Nat.le_of_eq size
  rw [refill, List.drop_of_length_le short, List.append_nil]

end Refill

end BoostZones
