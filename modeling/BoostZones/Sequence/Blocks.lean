/-!
Cutting a list into blocks. All blocks but the last have the given size, the last may be
shorter, and the blocks one after the other are the list again. A size of zero cuts like one.
-/

namespace BoostZones

/-- The consecutive blocks of a list. -/
def blocksOf (size : Nat) : List α → List (List α)
  | [] => []
  | x :: rest => (x :: rest.take (size - 1)) :: blocksOf size (rest.drop (size - 1))
termination_by xs => xs.length
decreasing_by simp only [List.length_drop, List.length_cons]; omega

@[simp] theorem blocksOf_nil (size : Nat) : blocksOf size ([] : List α) = [] := by
  simp [blocksOf]

theorem flatten_blocksOf (size : Nat) (xs : List α) : (blocksOf size xs).flatten = xs := by
  fun_induction blocksOf size xs with
  | case1 => rfl
  | case2 x rest ih => simp [ih]

theorem blocksOf_eq_take_cons {size : Nat} (positive : 0 < size) {xs : List α}
    (filled : xs ≠ [])
    : blocksOf size xs = xs.take size :: blocksOf size (xs.drop size) := by
  cases xs with
  | nil => exact absurd rfl filled
  | cons x rest =>
    obtain ⟨n, rfl⟩ := Nat.exists_eq_add_one.2 positive
    rw [blocksOf]
    simp

/-- No block is longer than the size. -/
theorem length_le_of_mem_blocksOf {size : Nat} (positive : 0 < size) {xs block : List α}
    (h : block ∈ blocksOf size xs) : block.length ≤ size := by
  fun_induction blocksOf size xs with
  | case1 => simp at h
  | case2 x rest ih =>
    rcases List.mem_cons.1 h with rfl | h
    · simp only [List.length_cons, List.length_take]
      omega
    · exact ih h

/-- The blocks of full size. What is left at the end is in none of them. -/
def wholeBlocksOf (size : Nat) (xs : List α) : List (List α) :=
  blocksOf size (xs.take (xs.length / size * size))

theorem flatten_wholeBlocksOf (size : Nat) (xs : List α)
    : (wholeBlocksOf size xs).flatten = xs.take (xs.length / size * size) :=
  flatten_blocksOf ..

end BoostZones
