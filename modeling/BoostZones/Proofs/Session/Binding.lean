import BoostZones.Proofs.Session.Choice

/-! What binding comes to in a registry after any calls to register. It asks for scores and for
every entry that the zone has to have, and it takes those that came with the zone; entries of
another zone never stand in for one that is missing.
-/

namespace BoostZones

namespace Registry

/-- The exports that were accepted for the zone have this entry. -/
def Brought (accepted : List Exports) (zone : Zone) (entry : Entry) : Prop :=
  ∃ e ∈ accepted, e.zone = zone ∧ ∃ symbol ∈ e.symbols, symbol.entry = entry

/-- The exports that were accepted for the zone have an entry for the operation. -/
def Offers (accepted : List Exports) (zone : Zone) (op : Operation) : Prop :=
  ∃ entry : Entry, entry.operation = op ∧ Brought accepted zone entry

/-- Why a descriptor is not bound to the zone. -/
inductive Unbound (accepted : List Exports) (zone : Zone) (d : Descriptor) : ZoneError → Prop
  | noScores (empty : d.scoreCount = 0)
    : Unbound accepted zone d (.objectiveMismatch "c_scores deve ser >= 1")
  | missing {before after : List Operation} {op : Operation} (scores : d.scoreCount ≠ 0)
    (order : zone.required = before ++ op :: after)
    (offered : ∀ earlier ∈ before, Offers accepted zone earlier)
    (absent : ¬ Offers accepted zone op)
    : Unbound accepted zone d (.symbolNotFound (zone.symbolName op))

end Registry

/-- The binding of a descriptor to the zone: the entries that came with the zone, and a handle with
all that the descriptor tells.
-/
structure Binding.Joins (b : Binding) (accepted : List Exports) (zone : Zone) (d : Descriptor)
    : Prop where
  inZone : b.zone = zone
  handle
    : b.handle = {
        zone := zone.id
        objective := d.objective
        link := d.link
        linkParameter := d.linkParameter
        scoreCount := d.scoreCount
        maximizes := flag d.maximizes
        constantHessian := flag d.hasConstantHessian
        gradientConstant := d.gradientConstant
      }
  update (entry : UpdateEntry) : Registry.Brought accepted zone (.update entry) ↔ entry = b.update
  finish (entry : FinishEntry)
    : Registry.Brought accepted zone (.finish entry) ↔ b.finish = some entry
  baseline : b.finish.isSome ↔ zone = Zone.baseline
  finishes
    : ∀ entry ∈ b.finish,
        ∀ mean,
          b.finishMetric mean
          = if (entry (some b.handle) mean).isNaN && !mean.isNaN then
              .error (.internal ("FinishMetric da zona '" ++ zone.name ++ "' devolveu NaN"))
            else .ok (entry (some b.handle) mean)
  otherwise
    : zone ≠ Zone.baseline
      → ∀ mean, b.finishMetric mean = .error (.capabilityAbsent zone .finishMetric)

namespace Registry

-------------------------------------------------------------------------------
-- Entries of accepted exports
-------------------------------------------------------------------------------

section Accepted
variable {accepted : List Exports} (compatible : Compatible accepted) {zone : Zone}
include compatible

/-- The exports that are found for a zone are the only ones accepted for it. -/
theorem Compatible.brought_iff {entry : Entry}
    : Brought accepted zone entry
      ↔ ∃ e ∈ accepted.find? (·.zone == zone), ∃ symbol ∈ e.symbols, symbol.entry = entry := by
  constructor
  · intro brought
    obtain ⟨e, member, rfl, exported⟩ := brought
    exact ⟨e, find?_of_mem_of_nodup compatible.zones member, exported⟩
  · intro brought
    obtain ⟨e, found, exported⟩ := brought
    exact ⟨e, List.mem_of_find?_eq_some found, key_of_find? found, exported⟩

theorem Compatible.resolveUpdate_iff {entry : UpdateEntry}
    : (ofExports accepted).resolveUpdate zone = .ok entry
      ↔ Brought accepted zone (.update entry) := by
  rw [(compatible.answersBy zone).update, compatible.brought_iff]

theorem Compatible.resolveFinish_iff {entry : FinishEntry}
    : (ofExports accepted).resolveFinish zone = .ok entry
      ↔ Brought accepted zone (.finish entry) := by
  rw [(compatible.answersBy zone).finish, compatible.brought_iff]

theorem Compatible.offers_update_iff
    : Offers accepted zone .applyUpdate
      ↔ ∃ entry, (ofExports accepted).resolveUpdate zone = .ok entry := by
  constructor
  · intro offered
    obtain ⟨entry, operation, brought⟩ := offered
    obtain ⟨update, rfl⟩ := entry.exists_update operation
    exact ⟨update, compatible.resolveUpdate_iff.2 brought⟩
  · intro resolved
    obtain ⟨update, resolved⟩ := resolved
    exact ⟨.update update, rfl, compatible.resolveUpdate_iff.1 resolved⟩

theorem Compatible.offers_finish_iff
    : Offers accepted zone .finishMetric
      ↔ ∃ entry, (ofExports accepted).resolveFinish zone = .ok entry := by
  constructor
  · intro offered
    obtain ⟨entry, operation, brought⟩ := offered
    obtain ⟨finish, rfl⟩ := entry.exists_finish operation
    exact ⟨finish, compatible.resolveFinish_iff.2 brought⟩
  · intro resolved
    obtain ⟨finish, resolved⟩ := resolved
    exact ⟨.finish finish, rfl, compatible.resolveFinish_iff.1 resolved⟩

-------------------------------------------------------------------------------
-- Binding to them
-------------------------------------------------------------------------------

variable {d : Descriptor}

theorem Compatible.exists_bind_iff
    : (∃ b, bind (ofExports accepted) zone d = .ok b)
      ↔ d.scoreCount ≠ 0 ∧ ∀ op ∈ zone.required, Offers accepted zone op := by
  constructor
  · intro bound
    obtain ⟨b, bound⟩ := bound
    obtain ⟨scores, -, -, updates, finishes, finishing⟩ := bind_eq_ok_iff_resolved.1 bound
    refine ⟨scores, fun op required => ?_⟩
    have supported : zone.supports op = true := (List.mem_filter.1 required).2
    cases op with
    | applyUpdate => exact compatible.offers_update_iff.2 ⟨b.update, updates⟩
    | finishMetric =>
        rw [supported, Option.isSome_iff_exists] at finishes
        obtain ⟨finish, held⟩ := finishes
        exact compatible.offers_finish_iff.2 ⟨finish, finishing finish held⟩
  · intro offered
    obtain ⟨scores, offered⟩ := offered
    have offered (op : Operation) (supported : zone.supports op = true)
        : Offers accepted zone op :=
      offered op (List.mem_filter.2 ⟨op.mem_all, supported⟩)
    obtain ⟨update, updates⟩ := compatible.offers_update_iff.1 (offered .applyUpdate rfl)
    exact exists_bind scores updates fun supported =>
      compatible.offers_finish_iff.1 (offered .finishMetric supported)

theorem Compatible.joins {b : Binding} (bound : bind (ofExports accepted) zone d = .ok b)
    : b.Joins accepted zone d := by
  obtain ⟨-, inZone, handle, updates, finishes, finishing⟩ := bind_eq_ok_iff_resolved.1 bound
  have baseline : b.finish.isSome ↔ zone = Zone.baseline := by
    rw [finishes, Zone.supports, Zone.isBaseline, beq_iff_eq]
  constructor
  case inZone => exact inZone
  case handle => exact handle
  case update =>
    intro entry
    rw [← compatible.resolveUpdate_iff, updates, Except.ok.injEq, eq_comm]
  case finish =>
    intro entry
    rw [← compatible.resolveFinish_iff]
    cases held : b.finish with
    | some finish =>
        rw [finishing finish held, Except.ok.injEq, Option.some.injEq]
    | none =>
        refine iff_of_false ?_ nofun
        intro resolved
        rw [held, Option.isSome_none] at finishes
        rw [resolveFinish, ← finishes] at resolved
        cases resolved
  case baseline => exact baseline
  case finishes =>
    intro entry held mean
    rw [Binding.finishMetric, held, inZone]
  case otherwise =>
    intro other mean
    have absent : b.finish = none := Option.not_isSome_iff_eq_none.1 (mt baseline.1 other)
    rw [Binding.finishMetric, absent, inZone]

theorem Compatible.unbound {reason : ZoneError}
    (failed : bind (ofExports accepted) zone d = .error reason)
    : Unbound accepted zone d reason := by
  have answers := compatible.answersBy zone
  by_cases empty : d.scoreCount = 0
  · unfold bind at failed
    rw [if_pos empty] at failed
    cases failed
    exact .noScores empty
  unfold bind at failed
  rw [if_neg empty] at failed
  rcases bind_eq_error_iff.1 failed with missing | ⟨update, updates, later⟩
  · obtain rfl := answers.withoutUpdate reason missing
    have order : zone.required = [] ++ .applyUpdate :: zone.required.tail := by
      cases zone <;> rfl
    refine .missing empty order nofun ?_
    rw [compatible.offers_update_iff, missing]
    exact nofun
  dsimp only at later
  split at later
  · next supported =>
    rcases bind_eq_error_iff.1 later with missing | ⟨finish, -, done⟩
    · have missing := map_eq_error_iff.1 missing
      have named := answers.withoutFinish reason missing
      rw [if_pos supported] at named
      subst named
      have order : zone.required = [.applyUpdate] ++ .finishMetric :: [] := by
        cases zone with
        | cpu => rfl
        | simd => cases supported
        | offload => cases supported
      refine .missing empty order ?_ ?_
      · intro earlier member
        rw [List.mem_singleton.1 member]
        exact compatible.offers_update_iff.2 ⟨update, updates⟩
      · rw [compatible.offers_finish_iff, missing]
        exact nofun
    · cases done
  · cases later

end Accepted

/-- Whatever calls to register were made, a descriptor is bound to a zone exactly when it has scores
and the zone was accepted with an entry for every operation that it has to have. The binding
joins the descriptor to just those entries, and what is not bound is told by the first thing that is
missing.
-/
theorem bind_ok_iff_offered (calls : List Exports) (zone : Zone) (d : Descriptor)
    : ((∃ b, bind (run calls).1 zone d = .ok b)
        ↔ 1 ≤ d.scoreCount ∧ ∀ op ∈ zone.required, Offers (run calls).2 zone op)
      ∧ (∀ b, bind (run calls).1 zone d = .ok b → b.Joins (run calls).2 zone d)
      ∧ ∀ reason,
          bind (run calls).1 zone d = .error reason → Unbound (run calls).2 zone d reason := by
  obtain ⟨holds, compatible⟩ := made_run calls
  have scores : d.scoreCount ≠ 0 ↔ 1 ≤ d.scoreCount := by grind
  rw [holds, ← scores]
  exact ⟨compatible.exists_bind_iff, fun b => compatible.joins, fun reason => compatible.unbound⟩

end Registry
end BoostZones
