import BoostZones.Proofs.Sequence.Rows

/-!
Cutting rows into blocks. A list of rows cut into blocks of so many rows is the list of row
numbers cut in the same way, each block with its rows; and a block of consecutive numbers is
told by its first number and its length.
-/

namespace BoostZones

theorem drop_flatMap_rows {width : Nat} (members : List ι) (row : ι → List α)
    (uniform : ∀ i ∈ members, (row i).length = width) (k : Nat)
    : (members.flatMap row).drop (k * width) = (members.drop k).flatMap row := by
  induction members generalizing k with
  | nil => simp
  | cons i rest ih =>
      cases k with
      | zero => simp
      | succ k =>
          have first := uniform i (by simp)
          have later := ih (fun j member => uniform j (by simp [member])) k
          rw [List.flatMap_cons, List.drop_succ_cons, ← later, Nat.add_one_mul, Nat.add_comm,
            ← List.drop_drop, ← first, List.drop_left, first]

theorem take_flatMap_rows {width : Nat} (members : List ι) (row : ι → List α)
    (uniform : ∀ i ∈ members, (row i).length = width) (k : Nat)
    : (members.flatMap row).take (k * width) = (members.take k).flatMap row := by
  induction members generalizing k with
  | nil => simp
  | cons i rest ih =>
      cases k with
      | zero => simp
      | succ k =>
          have first := uniform i (by simp)
          have later := ih (fun j member => uniform j (by simp [member])) k
          rw [List.take_succ_cons, List.flatMap_cons, List.flatMap_cons, ← later,
            Nat.add_one_mul, Nat.add_comm, List.take_add, ← first, List.take_left,
            List.drop_left, first]

/-- A list of rows is cut into blocks between rows. -/
theorem blocksOf_flatMap {width : Nat} (positive : 0 < width) {size : Nat} (sized : 0 < size)
    (members : List ι) (row : ι → List α) (uniform : ∀ i ∈ members, (row i).length = width)
    : blocksOf (size * width) (members.flatMap row)
      = (blocksOf size members).map fun block => block.flatMap row := by
  -- The induction takes whole blocks off the front, as the cutting does.
  generalize bound : members.length = length
  induction length using Nat.strongRecOn generalizing members with
  | ind length ih =>
      cases members with
      | nil => simp
      | cons i rest =>
          have filled : (i :: rest).flatMap row ≠ [] := by
            have first := uniform i (by simp)
            intro empty
            rw [List.flatMap_cons, List.append_eq_nil_iff] at empty
            rw [empty.1, List.length_nil] at first
            omega
          have shorter : ((i :: rest).drop size).length < length := by
            rw [← bound, List.length_drop, List.length_cons]
            omega
          have kept : ∀ j ∈ (i :: rest).drop size, (row j).length = width :=
            fun j member => uniform j (List.mem_of_mem_drop member)
          rw [blocksOf_eq_take_cons (Nat.mul_pos sized positive) filled,
            take_flatMap_rows _ row uniform, drop_flatMap_rows _ row uniform,
            ih _ shorter _ kept rfl, blocksOf_eq_take_cons sized (List.cons_ne_nil i rest),
            List.map_cons]

theorem blocksOf_one (xs : List α) : blocksOf 1 xs = xs.map fun x => [x] := by
  induction xs with
  | nil => simp
  | cons x rest ih =>
      rw [blocksOf_eq_take_cons Nat.one_pos (List.cons_ne_nil x rest)]
      simp [ih]

theorem blocksOf_rows {width : Nat} (positive : 0 < width) (members : List ι)
    (row : ι → List α) (uniform : ∀ i ∈ members, (row i).length = width)
    : blocksOf width (members.flatMap row) = members.map row := by
  have cut := blocksOf_flatMap positive Nat.one_pos members row uniform
  rw [Nat.one_mul, blocksOf_one] at cut
  rw [cut, List.map_map]
  apply List.map_congr_left
  simp

/-- A list of rows has no piece of a row at its end. -/
theorem wholeBlocksOf_rows {width : Nat} (positive : 0 < width) (members : List ι)
    (row : ι → List α) (uniform : ∀ i ∈ members, (row i).length = width)
    : wholeBlocksOf width (members.flatMap row) = members.map row := by
  have length := length_flatMap_rows members row uniform
  rw [wholeBlocksOf, length, Nat.mul_div_cancel _ positive, ← length, List.take_length,
    blocksOf_rows positive members row uniform]

theorem take_range'_one (first count k : Nat)
    : (List.range' first count).take k = List.range' first (min k count) := by
  rcases Nat.le_total k count with short | long
  · rw [List.take_range'_of_length_ge short, Nat.min_eq_left short]
  · rw [List.take_range'_of_length_le long, Nat.min_eq_right long]

/-- A block of consecutive numbers is told by its first number and its length. -/
theorem eq_range'_of_mem_blocksOf {size : Nat} (positive : 0 < size) {first count : Nat}
    {block : List Nat} (member : block ∈ blocksOf size (List.range' first count))
    : block = List.range' (block.headD 0) block.length
      ∧ first ≤ block.headD 0
      ∧ block.headD 0 + block.length ≤ first + count := by
  induction count using Nat.strongRecOn generalizing first with
  | ind count ih =>
      cases count with
      | zero => simp at member
      | succ count =>
          rw [blocksOf_eq_take_cons positive (by simp), take_range'_one, List.drop_range',
            Nat.mul_one] at member
          rcases List.mem_cons.1 member with rfl | later
          · obtain ⟨short, least⟩ : ∃ short, min size (count + 1) = short + 1 :=
              Nat.exists_eq_add_one.2 (by omega)
            rw [least, List.length_range', List.range'_succ, List.headD_cons]
            exact ⟨rfl, Nat.le_refl _, by omega⟩
          · have room : size < count + 1 := by
              apply Nat.lt_of_not_le
              intro short
              rw [Nat.sub_eq_zero_of_le short] at later
              simp at later
            obtain ⟨same, low, high⟩ := ih (count + 1 - size) (by omega) later
            exact ⟨same, by omega, by omega⟩

theorem mapIdx_map (xs : List ι) (f : ι → α) (g : Nat → α → β)
    : (xs.map f).mapIdx g = xs.mapIdx fun place x => g place (f x) := by
  apply List.ext_getElem?
  simp [Function.comp_def]

/-- The place of a block of consecutive numbers is told by its first number. -/
theorem mapIdx_blocksOf_range' {size : Nat} (positive : 0 < size) (first count : Nat)
    (f : Nat → List Nat → β)
    : (blocksOf size (List.range' first count)).mapIdx (fun b block => f (first + b * size) block)
      = (blocksOf size (List.range' first count)).map fun block => f (block.headD 0) block := by
  induction count using Nat.strongRecOn generalizing first with
  | ind count ih =>
      cases count with
      | zero => simp
      | succ count =>
          have later := ih (count + 1 - size) (by omega) (first + size)
          rw [blocksOf_eq_take_cons positive (by simp), take_range'_one, List.drop_range',
            Nat.mul_one, List.mapIdx_cons, List.map_cons, ← later, Nat.zero_mul, Nat.add_zero]
          congr 1
          · obtain ⟨short, least⟩ : ∃ short, min size (count + 1) = short + 1 :=
              Nat.exists_eq_add_one.2 (by omega)
            rw [least, List.range'_succ, List.headD_cons]
          · congr 1
            funext b block
            rw [Nat.add_one_mul]
            congr 1
            omega

end BoostZones
