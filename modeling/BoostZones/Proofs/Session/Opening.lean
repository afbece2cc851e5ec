import BoostZones.Proofs.Sequence.Loops
import BoostZones.Session

/-! What binding and opening come to. A binding holds the entries that the registry resolves for
its zone; a session holds such a binding and, outside the baseline, the baseline's binding if
there is one.
-/

namespace BoostZones

/-- A descriptor is bound exactly when it has scores and the zone's entries are resolved. -/
theorem bind_eq_ok_iff_resolved {r : Registry} {zone : Zone} {d : Descriptor} {b : Binding}
    : bind r zone d = .ok b
      ↔ d.scoreCount ≠ 0
        ∧ b.zone = zone
        ∧ b.handle = d.toHandle zone
        ∧ r.resolveUpdate zone = .ok b.update
        ∧ b.finish.isSome = zone.supports .finishMetric
        ∧ ∀ f ∈ b.finish, r.resolveFinish zone = .ok f := by
  obtain ⟨zone', handle, update, finish⟩ := b
  unfold bind
  by_cases empty : d.scoreCount = 0
  · rw [if_pos empty]
    exact iff_of_false nofun fun bound => bound.1 empty
  rw [if_neg empty]
  dsimp only
  rw [bind_eq_ok_iff]
  cases supported : zone.supports .finishMetric with
  | false =>
      simp only [Bool.false_eq_true, if_false]
      constructor
      · rintro ⟨entry, resolved, ⟨⟩⟩
        exact ⟨empty, rfl, rfl, resolved, rfl, nofun⟩
      · rintro ⟨-, rfl, rfl, resolved, absent, -⟩
        cases finish with
        | none => exact ⟨update, resolved, rfl⟩
        | some f => cases absent
  | true =>
      simp only [if_true, bind_eq_ok_iff, map_eq_ok_iff]
      constructor
      · rintro ⟨entry, resolved, -, ⟨f, finishing, rfl⟩, ⟨⟩⟩
        refine ⟨empty, rfl, rfl, resolved, rfl, ?_⟩
        rintro f' ⟨⟩
        exact finishing
      · rintro ⟨-, rfl, rfl, resolved, present, finishing⟩
        cases finish with
        | none => cases present
        | some f => exact ⟨update, resolved, some f, ⟨f, finishing f rfl, rfl⟩, rfl⟩

/-- A descriptor with scores is bound where the zone has its entry for updates and, if it finishes
metrics, the entry for that.
-/
theorem exists_bind {r : Registry} {zone : Zone} {d : Descriptor} (scores : d.scoreCount ≠ 0)
    {update : UpdateEntry} (updates : r.resolveUpdate zone = .ok update)
    (finishes : zone.supports .finishMetric = true → ∃ f, r.resolveFinish zone = .ok f)
    : ∃ b, bind r zone d = .ok b := by
  cases supported : zone.supports .finishMetric with
  | false =>
      refine ⟨⟨zone, d.toHandle zone, update, none⟩, ?_⟩
      exact bind_eq_ok_iff_resolved.2 ⟨scores, rfl, rfl, updates, supported.symm, nofun⟩
  | true =>
      obtain ⟨finish, finishing⟩ := finishes supported
      refine ⟨⟨zone, d.toHandle zone, update, some finish⟩, ?_⟩
      refine bind_eq_ok_iff_resolved.2 ⟨scores, rfl, rfl, updates, supported.symm, ?_⟩
      intro f held
      cases held
      exact finishing

namespace Session

/-- A session is opened exactly when the objective's descriptor is bound to the zone. -/
theorem create_eq_ok_iff {r : Registry} {zone : Zone} {o : Objective} {s : Session}
    : create r zone o = .ok s
      ↔ ∃ d,
          o.descriptor = .ok d
          ∧ bind r zone d = .ok s.binding
          ∧ s.objective = o
          ∧ s.finisher = finisherFor r zone d
          ∧ s.rounds = 0 := by
  obtain ⟨objective, binding, finisher, rounds⟩ := s
  unfold create
  rw [bind_eq_ok_iff]
  simp only [bind_eq_ok_iff, mapError_eq_ok_iff]
  constructor
  · rintro ⟨d, described, b, bound, ⟨⟩⟩
    exact ⟨d, described, bound, rfl, rfl, rfl⟩
  · rintro ⟨d, described, bound, rfl, rfl, rfl⟩
    exact ⟨d, described, binding, bound, rfl⟩

theorem zone_of_create {r : Registry} {zone : Zone} {o : Objective} {s : Session}
    (created : create r zone o = .ok s)
    : s.zone = zone := by
  obtain ⟨d, -, bound, -⟩ := create_eq_ok_iff.1 created
  exact (bind_eq_ok_iff_resolved.1 bound).2.1

/-- The baseline's binding of a session is a binding of the baseline. -/
theorem bound_of_finisherFor {r : Registry} {zone : Zone} {d : Descriptor} {b : Binding}
    (held : finisherFor r zone d = some b)
    : bind r Zone.baseline d = .ok b := by
  unfold finisherFor at held
  split at held
  · cases held
  · exact toOption_eq_some_iff.1 held

end Session
end BoostZones
