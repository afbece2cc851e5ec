import BoostZones.Proofs.Objective.Handles
import BoostZones.Proofs.Session.Opening

/-! Which handles stand for an objective. The class count of an objective is not written into its
handle; it is recovered from the number of scores, so a classification into two classes and one into
more are told apart by that number alone, and a number that no objective writes is refused.
-/

namespace BoostZones

/-- The handle has the code, the number of scores and the link of the descriptor. -/
structure Descriptor.WrittenIn (d : Descriptor) (h : Handle) : Prop where
  objective : d.objective = h.objective
  scores : d.scoreCount = h.scoreCount
  link : d.link = h.link

namespace Objective

/-- A code and a number of scores stand for the valid objective that has them. -/
theorem ofCode?_eq_some_iff {code : UInt32} {scores : UInt64} {o : Objective}
    : ofCode? code scores = some o
      ↔ o.validate = .ok () ∧ o.code = code ∧ o.scoreCount = scores := by
  constructor
  · intro decoded
    unfold ofCode? at decoded
    split at decoded
    · next single => cases decoded; exact ⟨rfl, single.1.symm, single.2.symm⟩
    split at decoded
    · next single => cases decoded; exact ⟨rfl, single.1.symm, single.2.symm⟩
    split at decoded
    · next many =>
      cases decoded
      have enough : ¬ scores < 2 := UInt64.not_lt.2 (UInt64.le_of_lt many.2)
      exact ⟨if_neg enough, many.1.symm, if_pos many.2⟩
    split at decoded
    · next single => cases decoded; exact ⟨rfl, single.1.symm, single.2.symm⟩
    · cases decoded
  · intro written
    obtain ⟨valid, rfl, rfl⟩ := written
    exact ofCode?_code valid

theorem ofHandle_eq_ok_iff {h : Handle} {o : Objective}
    : ofHandle h = .ok o
      ↔ o.validate = .ok ()
        ∧ o.code = h.objective
        ∧ o.scoreCount = h.scoreCount
        ∧ o.link.code = h.link := by
  rw [← and_assoc, ← and_assoc, and_assoc (a := o.validate = .ok ()), ← ofCode?_eq_some_iff]
  unfold ofHandle
  cases ofCode? h.objective h.scoreCount with
  | none => simp
  | some p =>
      dsimp only
      by_cases linked : p.link.code = h.link
      · rw [if_pos linked, Except.ok.injEq, Option.some.injEq]
        constructor
        · intro same
          exact ⟨same, same ▸ linked⟩
        · exact And.left
      · rw [if_neg linked]
        refine iff_of_false nofun ?_
        intro decoded
        obtain ⟨same, linked'⟩ := decoded
        cases same
        exact linked linked'

/-- No descriptor has two scores: two classes need one score, and three classes need three. -/
theorem scoreCount_ne_two (o : Objective) : o.scoreCount ≠ 2 := by
  cases o with
  | logLoss classes =>
      rw [scoreCount_logLoss]
      split
      · next wide =>
        rintro rfl
        exact absurd wide (by decide)
      · decide
  | rmse => decide
  | poissonDeviance => decide

theorem ofHandle_of_two_scores {h : Handle} (two : h.scoreCount = 2)
    : ofHandle h = .error (.unknownCode h.objective 2) := by
  have unknown : ofCode? h.objective h.scoreCount = none := by
    cases decoded : ofCode? h.objective h.scoreCount with
    | none => rfl
    | some o =>
        obtain ⟨-, -, scores⟩ := ofCode?_eq_some_iff.1 decoded
        exact absurd (scores.trans two) o.scoreCount_ne_two
  rw [ofHandle, unknown, two]

theorem ofHandle_of_other_link {h : Handle} {o : Objective} (valid : o.validate = .ok ())
    (code : o.code = h.objective) (scores : o.scoreCount = h.scoreCount)
    (other : o.link.code ≠ h.link)
    : ofHandle h
      = .error (.invalidParameter
          ("link " ++ toString h.link.toInt ++ " não corresponde ao objetivo " ++ o.name)) := by
  have decoded : ofCode? h.objective h.scoreCount = some o :=
    ofCode?_eq_some_iff.2 ⟨valid, code, scores⟩
  rw [ofHandle, decoded]
  exact if_neg other

/-- A valid objective is what the handles with its three numbers stand for. -/
theorem ofHandle_eq_ok_iff_writtenIn {h : Handle} {o : Objective}
    : ofHandle h = .ok o
      ↔ o.validate = .ok () ∧ ∃ d, o.descriptor = .ok d ∧ d.WrittenIn h := by
  rw [ofHandle_eq_ok_iff]
  constructor
  · intro known
    obtain ⟨valid, code, scores, link⟩ := known
    exact ⟨valid, _, descriptor_eq_ok_iff.2 ⟨valid, rfl⟩, code, scores, link⟩
  · intro written
    obtain ⟨valid, d, described, written⟩ := written
    obtain ⟨-, rfl⟩ := descriptor_eq_ok_iff.1 described
    exact ⟨valid, written.objective, written.scores, written.link⟩

/-- A handle stands for an objective exactly when the objective is valid and its descriptor has the
handle's code, number of scores and link. So what a valid objective is bound to, in any zone, stands
for it again, and two objectives never share the three numbers; two scores stand for nothing, and
neither does a code with the link of another objective.
-/
theorem ofHandle_ok_iff_written (h : Handle) (o : Objective)
    : (ofHandle h = .ok o ↔ o.validate = .ok () ∧ ∃ d, o.descriptor = .ok d ∧ d.WrittenIn h)
      ∧ (o.validate = .ok ()
          ↔ ∃ d,
              o.descriptor = .ok d
              ∧ ∀ zone,
                  ofHandle (d.toHandle zone) = .ok o
                  ∧ ∀ r b, bind r zone d = .ok b → ofHandle b.handle = .ok o)
      ∧ (∀ p d e,
          o.descriptor = .ok d
          → p.descriptor = .ok e
          → d.WrittenIn h
          → e.WrittenIn h
          → o = p)
      ∧ (h.scoreCount = 2 → ofHandle h = .error (.unknownCode h.objective 2))
      ∧ (o.validate = .ok ()
          → o.code = h.objective
          → o.scoreCount = h.scoreCount
          → o.link.code ≠ h.link
          → ofHandle h
            = .error (.invalidParameter
                ("link " ++ toString h.link.toInt ++ " não corresponde ao objetivo "
                  ++ o.name))) := by
  refine ⟨ofHandle_eq_ok_iff_writtenIn, ?_, ?_, ofHandle_of_two_scores, ofHandle_of_other_link⟩
  · constructor
    · intro valid
      have described := descriptor_eq_ok_iff.2 ⟨valid, rfl⟩
      refine ⟨_, described, fun zone => ⟨ofHandle_toHandle described zone, ?_⟩⟩
      intro r b bound
      obtain ⟨-, -, handle, -⟩ := bind_eq_ok_iff_resolved.1 bound
      rw [handle]
      exact ofHandle_toHandle described zone
    · intro described
      obtain ⟨d, described, -⟩ := described
      exact (descriptor_eq_ok_iff.1 described).1
  · intro p d e described described' written written'
    have first : ofHandle h = .ok o := ofHandle_eq_ok_iff_writtenIn.2
      ⟨(descriptor_eq_ok_iff.1 described).1, d, described, written⟩
    have second : ofHandle h = .ok p := ofHandle_eq_ok_iff_writtenIn.2
      ⟨(descriptor_eq_ok_iff.1 described').1, e, described', written'⟩
    exact Except.ok.inj (first.symm.trans second)

end Objective
end BoostZones
