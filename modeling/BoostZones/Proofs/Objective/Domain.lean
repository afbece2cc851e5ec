import BoostZones.Objective.Targets
import BoostZones.Proofs.Binary64.Values
import BoostZones.Proofs.Objective.Samples

/-! The domain of targets, told by the numbers that they are. A target is a number; a class is a
natural number below the class count, and a number that is too great for a word is none; a count is
not negative. Targets are looked at in order, and the first that is not in the domain is reported.
-/

namespace BoostZones.Objective

-------------------------------------------------------------------------------
-- A target
-------------------------------------------------------------------------------

/-- What the objective asks of the number that a target is. -/
def Allows (o : Objective) (q : ℚ) : Prop :=
  match o with
  | .rmse => True
  | .logLoss classes => 0 ≤ q ∧ (∃ n : ℤ, q = n) ∧ min ⌊q⌋₊ (2 ^ 64 - 1) < classes.toNat
  | .poissonDeviance => 0 ≤ q

/-- The target is a number that the objective allows. -/
def Admits (o : Objective) (target : Float) : Prop :=
  ∃ q, (Binary64.ofFloat target).value? = some q ∧ o.Allows q

/-- Why a target is not in the domain: the first test that it does not pass. -/
inductive Misses : Objective → Float → String → Prop
  | notFinite {o : Objective} {target : Float} (special : (Binary64.ofFloat target).value? = none)
    : Misses o target "não finito"
  | notAClass {classes : UInt64} {target : Float} {q : ℚ}
    (value : (Binary64.ofFloat target).value? = some q)
    (outside : ¬ (logLoss classes).Allows q)
    : Misses (.logLoss classes) target "classe fora de 0..classes"
  | negative {target : Float} {q : ℚ} (value : (Binary64.ofFloat target).value? = some q)
    (below : q < 0)
    : Misses .poissonDeviance target "negativo"

/-- The classes are the natural numbers below the class count; no number that a word is too small
for is cut down to one of them.
-/
theorem allows_logLoss_iff {classes : UInt64} {q : ℚ}
    : (logLoss classes).Allows q ↔ ∃ k < classes.toNat, q = (k : ℚ) := by
  have word := classes.toNat_lt
  constructor
  · intro allowed
    obtain ⟨nonnegative, ⟨n, rfl⟩, below⟩ := allowed
    obtain ⟨k, rfl⟩ := Int.eq_ofNat_of_zero_le (Int.cast_nonneg_iff.mp nonnegative)
    rw [Int.cast_natCast, Nat.floor_natCast] at below
    exact ⟨k, by omega, Int.cast_natCast k⟩
  · intro named
    obtain ⟨k, below, rfl⟩ := named
    refine ⟨Nat.cast_nonneg k, ⟨k, (Int.cast_natCast k).symm⟩, ?_⟩
    rw [Nat.floor_natCast]
    omega

section Target
variable {o : Objective} {target : Float} {q : ℚ}

theorem isClass_iff {classes : UInt64} (value : (Binary64.ofFloat target).value? = some q)
    : isClass classes target = true ↔ (logLoss classes).Allows q := by
  unfold isClass
  rw [Bool.and_eq_true, Bool.and_eq_true, Bool.not_eq_true', decide_eq_false_iff_not,
    decide_eq_true_iff, Binary64.lt_zero_iff value, Binary64.isWhole_iff value,
    UInt64.lt_iff_toNat_lt, Binary64.toNat_toUInt64 value, not_lt, and_assoc]
  rfl

/-- The first test asks for a value. -/
theorem targetFault?_of_no_value (special : (Binary64.ofFloat target).value? = none)
    : o.targetFault? target = some .notFinite := by
  have infinite : target.isFinite = false := by
    simp [Bool.eq_false_iff, Binary64.isFinite_iff, special]
  unfold targetFault?
  rw [infinite]
  rfl

/-- What has a value is left to the objective. -/
theorem targetFault?_of_value (value : (Binary64.ofFloat target).value? = some q)
    : o.targetFault? target
      = match o with
        | .rmse => none
        | .logLoss classes => if isClass classes target then none else some .notAClass
        | .poissonDeviance => if target < 0 then some .negative else none := by
  have finite : target.isFinite = true := Binary64.isFinite_iff.mpr ⟨q, value⟩
  unfold targetFault?
  rw [finite]
  rfl

theorem targetFault?_eq_none_iff : o.targetFault? target = none ↔ o.Admits target := by
  cases value : (Binary64.ofFloat target).value? with
  | none =>
      rw [targetFault?_of_no_value value, Admits, value]
      exact iff_of_false nofun nofun
  | some q =>
      have own : o.Admits target ↔ o.Allows q := by
        simp [Admits, value]
      rw [own, targetFault?_of_value value]
      cases o with
      | rmse => exact iff_of_true rfl trivial
      | logLoss classes =>
          rw [← isClass_iff value]
          dsimp only
          cases isClass classes target <;> simp
      | poissonDeviance => simp [Allows, Binary64.lt_zero_iff value]

/-- The fault that is found is that of the first test which the target does not pass. -/
theorem exists_targetFault?_iff {reason : String}
    : (∃ fault, o.targetFault? target = some fault ∧ fault.message = reason)
      ↔ o.Misses target reason := by
  constructor
  · intro found
    obtain ⟨fault, found, rfl⟩ := found
    cases value : (Binary64.ofFloat target).value? with
    | none =>
        rw [targetFault?_of_no_value value] at found
        cases found
        exact .notFinite value
    | some q =>
        rw [targetFault?_of_value value] at found
        cases o with
        | rmse => cases found
        | logLoss classes =>
            dsimp only at found
            split at found <;> cases found
            next outside => exact .notAClass value (mt (isClass_iff value).mpr outside)
        | poissonDeviance =>
            dsimp only at found
            split at found <;> cases found
            next below => exact .negative value ((Binary64.lt_zero_iff value).mp below)
  · intro missed
    cases missed with
    | notFinite special => exact ⟨_, targetFault?_of_no_value special, rfl⟩
    | notAClass value outside =>
        have other := mt (isClass_iff value).mp outside
        exact ⟨.notAClass, by simp [targetFault?_of_value value, other], rfl⟩
    | negative value below =>
        have below := (Binary64.lt_zero_iff value).mpr below
        exact ⟨.negative, by simp [targetFault?_of_value value, below], rfl⟩

/-- Zero is a class with either sign, and a half is none. -/
example
    : (logLoss 3).targetFault? (-0) = none
      ∧ (logLoss 3).targetFault? 0.5 = some .notAClass := by
  decide +kernel

end Target

-------------------------------------------------------------------------------
-- The first fault
-------------------------------------------------------------------------------

/-- The scan stops at the first target that is not in the domain and tells its place, by induction
on the targets from the place that the first of them has.
-/
theorem checkTargets_go_eq_error_iff {o : Objective} (index : Nat) {targets : List Float}
    {reason : ObjectiveError}
    : checkTargets.go o index targets = .error reason
      ↔ ∃ before target after told,
          targets = before ++ target :: after
          ∧ (∀ earlier ∈ before, o.Admits earlier)
          ∧ o.Misses target told
          ∧ reason = .invalidTarget (index + before.length) target told := by
  induction targets generalizing index with
  | nil => simp [checkTargets.go]
  | cons first rest ih =>
      rw [checkTargets.go]
      cases found : o.targetFault? first with
      | some fault =>
          have missed := exists_targetFault?_iff.mp ⟨fault, found, rfl⟩
          constructor
          · intro failed
            cases failed
            exact ⟨[], first, rest, _, rfl, List.forall_mem_nil _, missed, rfl⟩
          · intro parts
            obtain ⟨before, target, after, told, order, earlier, misses, rfl⟩ := parts
            cases before with
            | nil =>
                cases order
                obtain ⟨own, same, rfl⟩ := exists_targetFault?_iff.mpr misses
                cases found.symm.trans same
                rfl
            | cons _ others =>
                cases order
                have admitted := targetFault?_eq_none_iff.mpr (earlier first List.mem_cons_self)
                cases found.symm.trans admitted
      | none =>
          have admitted := targetFault?_eq_none_iff.mp found
          simp only [ih]
          constructor
          · intro parts
            obtain ⟨before, target, after, told, rfl, earlier, misses, rfl⟩ := parts
            refine ⟨first :: before, target, after, told, rfl, ?_, misses, ?_⟩
            · exact List.forall_mem_cons.mpr ⟨admitted, earlier⟩
            · rw [List.length_cons, Nat.add_right_comm, Nat.add_assoc]
          · intro parts
            obtain ⟨before, target, after, told, order, earlier, misses, rfl⟩ := parts
            cases before with
            | nil =>
                cases order
                obtain ⟨own, same, -⟩ := exists_targetFault?_iff.mpr misses
                cases found.symm.trans same
            | cons _ others =>
                cases order
                refine ⟨others, target, after, told, rfl, ?_, misses, ?_⟩
                · exact (List.forall_mem_cons.mp earlier).2
                · rw [List.length_cons, Nat.add_right_comm, Nat.add_assoc]

/-- Targets are accepted exactly when each is a number that the objective allows: any number for the
squared error, a natural number below the class count for a classification, and what is not negative
for counts. Otherwise the first that is not such a number is reported, with its place and the first
test that it does not pass. In an accepted list for several scores, what a target is converted to
is the place of one of the scores.
-/
theorem checkTargets_decides_domain (o : Objective) (targets : List Float)
    : (o.checkTargets targets = .ok () ↔ ∀ target ∈ targets, o.Admits target)
      ∧ (∀ reason,
          o.checkTargets targets = .error reason
          ↔ ∃ before target after told,
              targets = before ++ target :: after
              ∧ (∀ earlier ∈ before, o.Admits earlier)
              ∧ o.Misses target told
              ∧ reason = .invalidTarget before.length target told)
      ∧ (o.isMulticlass = true
          → o.checkTargets targets = .ok ()
          → ∀ target ∈ targets, classIndex target < o.scoreCount.toNat) := by
  refine ⟨?_, ?_, ?_⟩
  · simp only [checkTargets_eq_ok_iff, targetFault?_eq_none_iff]
  · intro reason
    unfold checkTargets
    simpa only [Nat.zero_add] using checkTargets_go_eq_error_iff 0
  · intro several accepted target member
    exact classIndex_lt several ((checkTargets_eq_ok_iff o targets).mp accepted target member)

end BoostZones.Objective
