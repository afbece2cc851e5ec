import BoostZones.Kernel.Staged
import BoostZones.Proofs.Sequence.Loops

/-! The queue may carry out its blocks in any order. Each block works on its own part of the
staging areas, so the areas after some blocks are told by which blocks these were.
-/

namespace BoostZones.Kernel.Staged

section Queue
variable {job : Job} (waiting done : ι → Block) (parts : List ι)

/-- The areas after the blocks of `order`; the other blocks still wait. -/
def areasAfter (order : List Nat) : Array Block :=
  (parts.mapIdx fun b part => if b ∈ order then done part else waiting part).toArray

variable {waiting done parts}

/-- A block that waits is carried out and put back, and the other blocks stay as they are. -/
theorem step?_areasAfter (runs : ∀ part ∈ parts, (waiting part).run? job = some (done part))
    {order : List Nat} {b : Nat} (waits : b ∉ order) (held : b < parts.length)
    : step? job (areasAfter waiting done parts order) b
      = some (areasAfter waiting done parts (order ++ [b])) := by
  have found : (areasAfter waiting done parts order)[b]? = some (waiting parts[b]) := by
    simp [areasAfter, held, waits]
  have ran := runs parts[b] (List.getElem_mem held)
  simp only [step?, found, ran, Bind.bind, pure, Option.bind_some, Option.some.injEq]
  apply Array.toList_inj.1
  apply List.ext_getElem?
  intro i
  rw [Array.getElem?_toList, Array.getElem?_toList, Array.getElem?_setIfInBounds]
  by_cases same : b = i
  · subst same
    simp [areasAfter, held]
  · have other : i ≠ b := Ne.symm same
    simp [areasAfter, same, other]

theorem runQueue?_areasAfter
    (runs : ∀ part ∈ parts, (waiting part).run? job = some (done part))
    (before order : List Nat) (once : (before ++ order).Nodup)
    (held : ∀ b ∈ order, b < parts.length)
    : runQueue? job order (areasAfter waiting done parts before)
      = some (areasAfter waiting done parts (before ++ order)) := by
  induction order generalizing before with
  | nil => simp [runQueue?]
  | cons b rest ih =>
      have waits : b ∉ before := fun member =>
        (List.nodup_append.1 once).2.2 b member b (by simp) rfl
      have next := step?_areasAfter runs waits (held b (by simp))
      have later := ih (before ++ [b]) (by simpa using once) fun c member =>
        held c (by simp [member])
      rw [List.append_assoc, List.singleton_append] at later
      rw [runQueue?, List.foldlM_cons, next]
      exact later

/-- Whatever the order, the queue ends with every block carried out once. -/
theorem runQueue?_eq (runs : ∀ part ∈ parts, (waiting part).run? job = some (done part))
    {order : List Nat} (schedule : order.Perm (List.range parts.length))
    : runQueue? job order (parts.map waiting).toArray = some (parts.map done).toArray := by
  have start : (parts.map waiting).toArray = areasAfter waiting done parts [] := by
    apply Array.toList_inj.1
    apply List.ext_getElem?
    simp [areasAfter]
  have ended : areasAfter waiting done parts order = (parts.map done).toArray := by
    apply Array.toList_inj.1
    apply List.ext_getElem?
    intro i
    by_cases held : i < parts.length
    · have member : i ∈ order := schedule.mem_iff.2 (List.mem_range.2 held)
      simp [areasAfter, member]
    · simp [areasAfter, List.getElem?_eq_none (Nat.le_of_not_lt held)]
  have ran := runQueue?_areasAfter runs [] order (schedule.nodup_iff.2 List.nodup_range)
    fun b member => List.mem_range.1 (schedule.mem_iff.1 member)
  rw [start, ran, List.nil_append, ended]

end Queue
end BoostZones.Kernel.Staged
