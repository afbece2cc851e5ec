import BoostZones.Proofs.Sequence.Blocks

/-! Rows that are read back. A row is told by its entries, and rows written from the beginning of
a buffer on are found again in the windows of their places, whatever the buffer held before and
whatever follows them.
-/

namespace BoostZones

theorem getElem?_rowAt (xs : List α) {width k : Nat} (inside : k < width) (i : Nat)
    : (rowAt xs width i)[k]? = xs[i * width + k]? := by
  rw [rowAt, List.getElem?_take_of_lt inside, List.getElem?_drop]

/-- A row is not touched by what follows the rows. -/
theorem rowAt_append {xs : List α} {width i : Nat} (held : (i + 1) * width ≤ xs.length)
    (rest : List α)
    : rowAt (xs ++ rest) width i = rowAt xs width i := by
  rw [Nat.add_one_mul] at held
  rw [rowAt, List.drop_append_of_le_length (by omega), List.take_append_of_le_length, rowAt]
  rw [List.length_drop]
  omega

theorem rowAt_flatMap {width : Nat} {members : List ι} {row : ι → List α}
    (uniform : ∀ i ∈ members, (row i).length = width) {place : Nat} {member : ι}
    (held : members[place]? = some member)
    : rowAt (members.flatMap row) width place = row member := by
  obtain ⟨below, rfl⟩ := List.getElem?_eq_some_iff.1 held
  have tail : ∀ i ∈ members.drop place, (row i).length = width :=
    fun i kept => uniform i (List.mem_of_mem_drop kept)
  have first := take_flatMap_rows (members.drop place) row tail 1
  rw [Nat.one_mul] at first
  rw [rowAt, drop_flatMap_rows members row uniform, first, List.drop_eq_getElem_cons below,
    List.take_succ_cons, List.take_zero, List.flatMap_singleton]

theorem window?_row {buffer : Array α} {width i : Nat} (held : (i + 1) * width ≤ buffer.size)
    : window? buffer (i * width) width = some (rowAt buffer.toList width i) := by
  simpa only [Nat.one_mul, List.range'_one, List.flatMap_singleton]
    using window?_rows buffer width i 1 held

/-- A list cut into blocks of the width is cut into its rows; the last row may be shorter. -/
theorem getElem?_blocksOf {size : Nat} (positive : 0 < size) (xs : List α) (j : Nat)
    : (blocksOf size xs)[j]? = if j * size < xs.length then some (rowAt xs size j) else none := by
  induction j generalizing xs with
  | zero =>
      cases xs with
      | nil => simp
      | cons x rest =>
          rw [blocksOf_eq_take_cons positive (List.cons_ne_nil x rest), List.getElem?_cons_zero,
            if_pos (by simp), rowAt, Nat.zero_mul, List.drop_zero]
  | succ j ih =>
      cases xs with
      | nil => simp
      | cons x rest =>
          have later := ih ((x :: rest).drop size)
          rw [blocksOf_eq_take_cons positive (List.cons_ne_nil x rest), List.getElem?_cons_succ,
            later, List.length_drop, Nat.add_one_mul]
          by_cases inside : j * size + size < (x :: rest).length
          · rw [if_pos (by omega), if_pos inside, rowAt, rowAt, List.drop_drop, Nat.add_one_mul,
              Nat.add_comm size]
          · rw [if_neg (by omega), if_neg inside]

theorem length_rowAt_of_lt {xs : List α} {width i : Nat} (inside : i < xs.length / width)
    : (rowAt xs width i).length = width := by
  apply length_rowAt
  exact Nat.le_trans (Nat.mul_le_mul_right width inside) (Nat.div_mul_le_self xs.length width)

/-- The blocks of full size are the rows that the list holds whole. -/
theorem wholeBlocksOf_eq_map {size : Nat} (positive : 0 < size) (xs : List α)
    : wholeBlocksOf size xs = (List.range (xs.length / size)).map (rowAt xs size) := by
  have whole : xs.length / size * size ≤ xs.length := Nat.div_mul_le_self xs.length size
  apply List.ext_getElem?
  intro j
  rw [wholeBlocksOf, getElem?_blocksOf positive, List.getElem?_map, List.length_take,
    Nat.min_eq_left whole]
  by_cases inside : j < xs.length / size
  · have held : (j + 1) * size ≤ (xs.take (xs.length / size * size)).length := by
      rw [List.length_take, Nat.min_eq_left whole]
      exact Nat.mul_le_mul_right size inside
    have kept := rowAt_append held (xs.drop (xs.length / size * size))
    rw [List.take_append_drop] at kept
    rw [if_pos (Nat.mul_lt_mul_of_pos_right inside positive), List.getElem?_range inside,
      Option.map_some, kept]
  · have outside := Nat.le_of_not_lt inside
    rw [if_neg (Nat.not_lt.mpr (Nat.mul_le_mul_right size outside)),
      List.getElem?_eq_none (by rwa [List.length_range]), Option.map_none]

/-- Two tables side by side are a table up to where the shorter one ends. -/
theorem zip_map_range (a b : Nat) (f : Nat → α) (g : Nat → β)
    : ((List.range a).map f).zip ((List.range b).map g)
      = (List.range (min a b)).map fun j => (f j, g j) := by
  rw [List.zip_eq_zip_take_min, ← List.map_take, ← List.map_take, List.length_map,
    List.length_map, List.length_range, List.length_range, List.take_range, List.take_range,
    Nat.min_eq_left (Nat.min_le_left a b), Nat.min_eq_left (Nat.min_le_right a b), List.zip_map']

/-- Rows that are written from the beginning of a buffer on are read back from their places. -/
theorem window?_overwrite_rows {buffer : Array α} {width n : Nat} {row : Nat → List α}
    (uniform : ∀ i < n, (row i).length = width) (room : n * width ≤ buffer.size) {i : Nat}
    (below : i < n)
    : window? (overwrite buffer 0 ((List.range n).flatMap row)) (i * width) width
      = some (row i) := by
  have rows : ∀ i ∈ List.range n, (row i).length = width :=
    fun i member => uniform i (List.mem_range.1 member)
  have length := length_flatMap_rows (List.range n) row rows
  rw [List.length_range] at length
  have last : (i + 1) * width ≤ n * width := Nat.mul_le_mul_right width below
  rw [window?_row (by rw [size_overwrite]; exact Nat.le_trans last room),
    toList_overwrite _ _ _ (by omega), List.take_zero, List.nil_append,
    rowAt_append (by omega), rowAt_flatMap rows (List.getElem?_range below)]

theorem getElem?_of_window? {buffer : Array α} {start length : Nat} {xs : List α}
    (read : window? buffer start length = some xs) {k : Nat} (inside : k < length)
    : buffer[start + k]? = xs[k]? := by
  obtain ⟨-, rfl⟩ := (window?_eq_some_iff buffer start length xs).1 read
  rw [List.getElem?_take_of_lt inside, List.getElem?_drop, Array.getElem?_toList]

/-- A row of what a window holds is a window of its own. -/
theorem window?_of_window? {buffer : Array α} {start length : Nat} {xs : List α}
    (read : window? buffer start length = some xs) {width i : Nat}
    (inside : (i + 1) * width ≤ length)
    : window? buffer (start + i * width) width = some (rowAt xs width i) := by
  obtain ⟨held, rfl⟩ := (window?_eq_some_iff buffer start length xs).1 read
  rw [Nat.add_one_mul] at inside
  rw [window?_eq_some_iff, rowAt, List.drop_take, List.take_take, List.drop_drop,
    Nat.min_eq_left (by omega)]
  exact ⟨by omega, rfl⟩

end BoostZones
