import BoostZones.Proofs.Objective.Formulas

/-! The slot of a sample, score by score. For each score there is a gradient and, when hessians
are wanted, a hessian right after it; both are those of the formulas, and the constant multiplies all
of them.
-/

namespace BoostZones.Objective

def scaled (constant x : Float) : Float :=
  if constant != 1 then x * constant else x

/-- The entries for score `k` in the slot of a sample: its gradient and, when hessians are
wanted, its hessian right after it, both multiplied by the constant unless that is one.
-/
def scoreEntries (o : Objective) (constant : Float) (hessian : Bool) (scores : List Float)
    (top target : Float) (k : Nat) (score : Float)
    : List Float :=
  let (gradient, h) := o.scoreTerms scores top target k score
  (if hessian then [gradient, h] else [gradient]).map (scaled constant)

theorem length_scoreEntries (o : Objective) (constant : Float) (hessian : Bool)
    (scores : List Float) (top target : Float) (k : Nat) (score : Float)
    : (o.scoreEntries constant hessian scores top target k score).length
      = if hessian then 2 else 1 := by
  cases hessian <;> rfl

theorem scaleBy_eq_map (constant : Float) (slot : List Float)
    : scaleBy constant slot = slot.map (scaled constant) := by
  unfold scaleBy scaled
  split
  · rfl
  · exact (List.map_id' slot).symm

/-- The slot of a sample holds the entries of its scores one after the other, by cases on
whether the sample has one score or several.
-/
theorem scaleBy_gradientTerms? {o : Objective} {scores : List Float} {target : Float}
    (full : scores.length = o.scoreCount.toNat) (domain : o.targetFault? target = none)
    (constant : Float) (hessian : Bool)
    : (o.gradientTerms? scores target hessian).map (scaleBy constant)
      = some (scores.zipIdx.flatMap fun entry =>
          o.scoreEntries constant hessian scores (greatest scores) target entry.2 entry.1) := by
  unfold gradientTerms?
  cases many : o.isMulticlass with
  | true =>
      have held : classIndex target < scores.length := by
        rw [full]
        exact classIndex_lt many domain
      obtain ⟨classes, rfl, several⟩ := (isMulticlass_iff o).mp many
      rw [if_pos rfl]
      dsimp only
      rw [if_pos held, Option.map_some, scaleBy_eq_map, classTerms_eq several domain,
        List.map_flatMap]
      rfl
  | false =>
      rw [scoreCount_eq_one many] at full
      obtain ⟨score, rfl⟩ := List.length_eq_one_iff.mp full
      simp only [scoreEntries, Bool.false_eq_true, if_false, List.head?_cons, Option.map_some,
        scaleBy_eq_map, List.zipIdx_singleton, List.flatMap_singleton,
        gradientHessian_eq many [score] (greatest [score]) target 0]

end BoostZones.Objective
