/-!
Windows of a buffer: a run of neighbouring entries that is read as a list, if the buffer holds
all of it, and a list that is written over the entries from a place on.
-/

namespace BoostZones

/-- The `length` entries from `start` on, if there are that many. -/
def window? (buffer : Array α) (start length : Nat) : Option (List α) :=
  if start + length ≤ buffer.size then some (buffer.extract start (start + length)).toList
  else none

/-- The buffer with the entries from `start` on replaced; what does not fit is dropped. -/
def overwrite (buffer : Array α) (start : Nat) : List α → Array α
  | [] => buffer
  | x :: rest => overwrite (buffer.setIfInBounds start x) (start + 1) rest

@[simp] theorem overwrite_nil (buffer : Array α) (start : Nat)
    : overwrite buffer start [] = buffer := rfl

@[simp] theorem size_overwrite (buffer : Array α) (start : Nat) (xs : List α)
    : (overwrite buffer start xs).size = buffer.size := by
  induction xs generalizing buffer start with
  | nil => rfl
  | cons x rest ih => simp [overwrite, ih]

/-- An entry after overwriting: the new one in the window, the old one elsewhere. -/
theorem getElem?_overwrite (buffer : Array α) (start : Nat) (xs : List α) (i : Nat)
    (inside : start + xs.length ≤ buffer.size)
    : (overwrite buffer start xs)[i]?
      = if start ≤ i ∧ i < start + xs.length then xs[i - start]? else buffer[i]? := by
  induction xs generalizing buffer start with
  | nil => rw [overwrite_nil, if_neg (by simp only [List.length_nil]; omega)]
  | cons x rest ih =>
    simp only [List.length_cons] at inside ⊢
    rw [overwrite, ih]
    · by_cases first : i = start
      · subst first
        have held : i < buffer.size := by omega
        rw [if_neg (by omega), if_pos (by omega), Array.getElem?_setIfInBounds_self_of_lt held]
        simp
      · by_cases later : start + 1 ≤ i ∧ i < start + 1 + rest.length
        · have place : i - start = i - (start + 1) + 1 := by omega
          rw [if_pos later, if_pos (by omega), place, List.getElem?_cons_succ]
        · rw [if_neg later, if_neg (by omega), Array.getElem?_setIfInBounds_ne (Ne.symm first)]
    · simp only [Array.size_setIfInBounds]
      omega

theorem window?_eq_some_iff (buffer : Array α) (start length : Nat) (xs : List α)
    : window? buffer start length = some xs
      ↔ start + length ≤ buffer.size ∧ (buffer.toList.drop start).take length = xs := by
  unfold window?
  by_cases inside : start + length ≤ buffer.size
  · simp [inside]
  · simp [inside]

theorem length_of_window? {buffer : Array α} {start length : Nat} {xs : List α}
    (h : window? buffer start length = some xs) : xs.length = length := by
  rw [window?_eq_some_iff] at h
  rw [← h.2]
  simp
  omega

end BoostZones
