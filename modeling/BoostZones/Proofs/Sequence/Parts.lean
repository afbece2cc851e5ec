import BoostZones.Proofs.Sequence.Blocks
import Mathlib.Data.List.Perm.Basic

/-! Parts of a list. Entries with the same key are a part, and whatever the keys are, all parts
together hold every entry once. Entries may be told apart by their places: the blocks of a list
are the parts by quotient.
-/

namespace BoostZones

/-- The entries whose place satisfies `p`, in their order. -/
def entriesAt (p : Nat → Bool) (xs : List α) : List α :=
  (xs.zipIdx.filter fun entry => p entry.2).map (·.1)

theorem entriesAt_map_range (p : Nat → Bool) (f : Nat → α) (n : Nat)
    : entriesAt p ((List.range n).map f) = ((List.range n).filter p).map f := by
  have numbered : ((List.range n).map f).zipIdx = (List.range n).map fun i => (f i, i) := by
    apply List.ext_getElem?
    intro i
    rw [List.getElem?_zipIdx, List.getElem?_map, List.getElem?_map, Option.map_map, Nat.zero_add]
    by_cases below : i < n
    · rw [List.getElem?_range below]
      rfl
    · rw [List.getElem?_eq_none (by simpa using below)]
      rfl
  rw [entriesAt, numbered, List.filter_map, List.map_map]
  rfl

/-- Parts told apart by different keys hold every entry with one of the keys once, by induction on
the keys.
-/
theorem flatMap_filter_perm [DecidableEq κ] (key : α → κ) (xs : List α) {keys : List κ}
    (distinct : keys.Nodup)
    : (keys.flatMap fun k => xs.filter fun x => key x == k).Perm
        (xs.filter fun x => decide (key x ∈ keys)) := by
  induction keys with
  | nil => simp
  | cons k rest ih =>
      obtain ⟨new, distinct⟩ := List.nodup_cons.1 distinct
      have cut := List.filter_append_perm (fun x => key x == k)
        (xs.filter fun x => decide (key x ∈ k :: rest))
      have own
          : ((xs.filter fun x => decide (key x ∈ k :: rest)).filter fun x => key x == k)
            = xs.filter fun x => key x == k := by
        rw [List.filter_filter]
        apply List.filter_congr
        intro x _
        by_cases same : key x = k <;> simp [same]
      have others
          : ((xs.filter fun x => decide (key x ∈ k :: rest)).filter fun x => !(key x == k))
            = xs.filter fun x => decide (key x ∈ rest) := by
        rw [List.filter_filter]
        apply List.filter_congr
        intro x _
        by_cases same : key x = k <;> simp [same, new]
      rw [own, others] at cut
      rw [List.flatMap_cons]
      exact ((ih distinct).append_left _).trans cut

/-- When every place has a number below `m`, the parts hold every entry once. -/
theorem flatMap_entriesAt_perm {number : Nat → Nat} {m : Nat} {xs : List α}
    (below : ∀ i < xs.length, number i < m)
    : ((List.range m).flatMap fun j => entriesAt (number · == j) xs).Perm xs := by
  have all : (xs.zipIdx.filter fun entry => decide (number entry.2 ∈ List.range m))
      = xs.zipIdx := by
    rw [List.filter_eq_self]
    rintro ⟨x, i⟩ member
    have inside : i < xs.length := by simpa using List.snd_lt_of_mem_zipIdx member
    exact decide_eq_true (List.mem_range.2 (below i inside))
  have parts :=
    (flatMap_filter_perm (fun entry => number entry.2) xs.zipIdx (List.nodup_range (n := m))).map
      (·.1)
  rw [all, List.map_flatMap, List.zipIdx_map_fst] at parts
  exact parts

theorem ceil_div_add_one {size count : Nat} (positive : 0 < size) (counted : 0 < count)
    : (count + size - 1) / size = (count - size + size - 1) / size + 1 := by
  rcases Nat.le_total size count with long | short
  · rw [← Nat.add_div_right _ positive]
    congr 1
    omega
  · have last : (count + size - 1) / size = 1 :=
      Nat.div_eq_of_lt_le (by omega) (by omega)
    rw [last, Nat.sub_eq_zero_of_le short, Nat.zero_add, Nat.div_eq_of_lt (by omega)]

/-- The number of blocks is the quotient rounded up, by induction on what is left after the block in
front.
-/
theorem length_blocksOf {size : Nat} (positive : 0 < size) (xs : List α)
    : (blocksOf size xs).length = (xs.length + size - 1) / size := by
  generalize bound : xs.length = length
  induction length using Nat.strongRecOn generalizing xs with
  | ind length ih =>
      cases xs with
      | nil =>
          subst bound
          simp only [blocksOf_nil, List.length_nil, Nat.zero_add]
          exact (Nat.div_eq_of_lt (by omega)).symm
      | cons x rest =>
          have counted : 0 < length := by
            rw [← bound, List.length_cons]
            omega
          have later := ih (length - size) (by omega) ((x :: rest).drop size)
            (by rw [List.length_drop, bound])
          rw [blocksOf_eq_take_cons positive (List.cons_ne_nil x rest), List.length_cons, later,
            ceil_div_add_one positive counted]

/-- A block of consecutive numbers holds those with the same quotient, by induction on what is
left after the blocks in front.
-/
theorem blocksOf_range' {size : Nat} (positive : 0 < size) (first count : Nat)
    : blocksOf size (List.range' (first * size) count)
      = (List.range' first ((count + size - 1) / size)).map fun b =>
          (List.range' (first * size) count).filter (· / size == b) := by
  induction count using Nat.strongRecOn generalizing first with
  | ind count ih =>
      rcases Nat.eq_zero_or_pos count with rfl | counted
      · rw [Nat.zero_add, Nat.div_eq_of_lt (by omega)]
        simp
      · have later := ih (count - size) (by omega) (first + 1)
        have front {i : Nat} (member : i ∈ List.range' (first * size) (min size count))
            : i / size = first := by
          have bounds := List.mem_range'_1.1 member
          exact Nat.div_eq_of_lt_le bounds.1 (by rw [Nat.add_one_mul]; omega)
        have back {i : Nat} (member : i ∈ List.range' ((first + 1) * size) (count - size))
            : first < i / size := by
          have bounds := List.mem_range'_1.1 member
          exact (Nat.le_div_iff_mul_le positive).2 bounds.1
        have filled : List.range' (first * size) count ≠ [] := by simp; omega
        have cut : (List.range' (first * size) count).drop size
            = List.range' ((first + 1) * size) (count - size) := by
          rw [List.drop_range', Nat.add_one_mul, Nat.mul_one]
        have parts : List.range' (first * size) count
            = List.range' (first * size) (min size count)
              ++ List.range' ((first + 1) * size) (count - size) := by
          rw [← cut, ← take_range'_one, List.take_append_drop]
        rw [blocksOf_eq_take_cons positive filled, take_range'_one, cut, later,
          ceil_div_add_one positive counted, List.range'_succ, List.map_cons, parts]
        congr 1
        · have own : (List.range' (first * size) (min size count)).filter (· / size == first)
              = List.range' (first * size) (min size count) :=
            List.filter_eq_self.2 fun i member => by simp [front member]
          have nothing : (List.range' ((first + 1) * size) (count - size)).filter (· / size == first)
              = [] :=
            List.filter_eq_nil_iff.2 fun i member => by
              have later := back member
              rw [beq_iff_eq]
              omega
          rw [List.filter_append, own, nothing, List.append_nil]
        · apply List.map_congr_left
          intro b member
          have bounds := List.mem_range'_1.1 member
          have nothing : (List.range' (first * size) (min size count)).filter (· / size == b) = [] :=
            List.filter_eq_nil_iff.2 fun i inside => by
              rw [front inside, beq_iff_eq]
              omega
          rw [List.filter_append, nothing, List.nil_append]

end BoostZones
