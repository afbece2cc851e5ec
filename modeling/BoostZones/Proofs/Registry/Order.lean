import BoostZones.Binding
import BoostZones.Proofs.Registry.Answers
import BoostZones.Proofs.Registry.Refusals

/-! The order of registration. Exports that go together are all accepted one after the other, in
whatever order they come, since none of them depends on another being there. The registries that
come out hold the same symbols, each of them under its own name, so no question that is asked of
them by a name or a zone can tell them apart.
-/

namespace BoostZones

-------------------------------------------------------------------------------
-- Lookups in another order
-------------------------------------------------------------------------------

theorem find?_eq_some_iff_of_nodup [BEq κ] [LawfulBEq κ] {key : α → κ} {xs : List α}
    (distinct : (xs.map key).Nodup) {k : κ} {x : α}
    : xs.find? (key · == k) = some x ↔ x ∈ xs ∧ key x = k := by
  constructor
  · exact fun found => ⟨List.mem_of_find?_eq_some found, key_of_find? found⟩
  · intro held
    obtain ⟨member, rfl⟩ := held
    exact find?_of_mem_of_nodup distinct member

/-- Where keys are distinct, it does not matter in which order the entries are searched. -/
theorem find?_eq_of_perm [BEq κ] [LawfulBEq κ] {key : α → κ} {xs ys : List α}
    (same : xs.Perm ys) (distinct : (xs.map key).Nodup) (k : κ)
    : xs.find? (key · == k) = ys.find? (key · == k) := by
  have apart : (ys.map key).Nodup := (same.map key).nodup_iff.mp distinct
  ext x
  rw [find?_eq_some_iff_of_nodup distinct, find?_eq_some_iff_of_nodup apart, same.mem_iff]

namespace Registry

/-- Names that are sorted come out the same from any order. -/
theorem sortNames_eq_of_perm {names others : List String} (same : names.Perm others)
    (distinct : names.Nodup)
    : sortNames names = sortNames others := by
  have increasing := sortNames_increasing distinct
  have otherwise := sortNames_increasing (same.nodup_iff.mp distinct)
  have sorted := (sortNames_perm names).trans (same.trans (sortNames_perm others).symm)
  exact sorted.eq_of_pairwise (fun a b _ _ less more => absurd more (String.lt_asymm less))
    increasing otherwise

-------------------------------------------------------------------------------
-- Exports that go together
-------------------------------------------------------------------------------

section Together
variable {exports others : List Exports}

theorem Compatible.of_perm (compatible : Compatible exports) (same : exports.Perm others)
    : Compatible others where
  regular e member := compatible.regular e (same.mem_iff.mpr member)
  zones := (same.map (·.zone)).nodup_iff.mp compatible.zones

/-- Exports that go together with those before them are all accepted, by induction on the exports
that are still to come.
-/
theorem foldlM_register_ofExports (accepted : List Exports)
    (compatible : Compatible (accepted ++ exports))
    : exports.foldlM register (ofExports accepted) = .ok (ofExports (accepted ++ exports)) := by
  induction exports generalizing accepted with
  | nil => simp [pure, Except.pure]
  | cons e rest ih =>
      have zones := compatible.zones
      rw [List.map_append, List.map_cons, List.nodup_middle, List.nodup_cons] at zones
      have before : Compatible accepted :=
        ⟨fun other member => compatible.regular other (List.mem_append_left _ member),
          (List.nodup_append.mp zones.2).1⟩
      have unregistered : (ofExports accepted).isRegistered e.zone = false := by
        rw [Bool.eq_false_iff, ne_eq, isRegistered_ofExports]
        exact fun member => zones.1 (List.mem_append_left _ member)
      have free := before.objection?_eq_none_iff.mpr
        ⟨compatible.regular e (by simp), unregistered⟩
      have added : (ofExports accepted).register e = .ok (ofExports (accepted ++ [e])) :=
        (register_eq_ok_iff _ _ _).mpr ⟨free, (ofExports_append accepted e).symm⟩
      rw [List.append_cons] at compatible ⊢
      exact bind_eq_ok_iff.mpr ⟨_, added, ih _ compatible⟩

/-- A registry is built from just the exports that go together, and holds them. -/
theorem build_eq_ok_iff {r : Registry}
    : build exports = .ok r ↔ Compatible exports ∧ r = ofExports exports := by
  constructor
  · exact fun built => (made_of_build built).symm
  · intro made
    obtain ⟨compatible, rfl⟩ := made
    exact foldlM_register_ofExports [] compatible

theorem exists_build_iff : (∃ r, build exports = .ok r) ↔ Compatible exports := by
  simp only [build_eq_ok_iff, exists_and_left, exists_eq, and_true]

/-- Alone, exports only have to follow the scheme of their zone. -/
theorem exists_register_empty_iff {e : Exports}
    : (∃ r, empty.register e = .ok r) ↔ e.Regular := by
  have first : empty.objection? e = none ↔ e.Regular ∧ empty.isRegistered e.zone = false :=
    made_empty.2.objection?_eq_none_iff
  have unregistered : empty.isRegistered e.zone = false := rfl
  simp only [register_eq_ok_iff, exists_and_left, exists_eq', and_true, first, unregistered]

-------------------------------------------------------------------------------
-- Registries in another order
-------------------------------------------------------------------------------

/-- Registries that nobody can tell apart: each name stands for the same entry of the same zone, and
all that is asked of a registry has the same answer.
-/
structure Alike (r other : Registry) : Prop where
  find (name : String) : r.find? name = other.find? name
  resolve (name : String) : r.resolve? name = other.resolve? name
  capability (zone : Zone) : r.capability? zone = other.capability? zone
  registered : r.registeredZones = other.registeredZones
  available : r.availableZones = other.availableZones
  names : r.names = other.names
  namesOf (zone : Zone) : r.namesOf zone = other.namesOf zone
  size : r.size = other.size
  bind (zone : Zone) (d : Descriptor) : bind r zone d = bind other zone d

/-- The same symbols and the same zones, each under its own key, are all that a registry is asked
for.
-/
theorem Compatible.alike (compatible : Compatible exports) (same : exports.Perm others)
    : (ofExports exports).Alike (ofExports others) := by
  have symbols : (ofExports exports).symbols.Perm (ofExports others).symbols :=
    same.flatMap_right _
  have find (name : String)
      : (ofExports exports).find? name = (ofExports others).find? name :=
    find?_eq_of_perm symbols compatible.names_nodup name
  have resolve (name : String)
      : (ofExports exports).resolve? name = (ofExports others).resolve? name :=
    congrArg (Option.map _) (find name)
  have capability (zone : Zone)
      : (ofExports exports).capability? zone = (ofExports others).capability? zone := by
    rw [capability?_ofExports, capability?_ofExports, find?_eq_of_perm same compatible.zones]
  constructor
  case find => exact find
  case resolve => exact resolve
  case capability => exact capability
  case registered =>
    exact List.filter_congr fun zone _ => congrArg Option.isSome (capability zone)
  case available =>
    exact List.filter_congr fun zone _ => congrArg (Option.getD · false) (capability zone)
  case names => exact sortNames_eq_of_perm (symbols.map _) compatible.names_nodup
  case namesOf =>
    intro zone
    have own := (symbols.filter (·.zone == zone)).map (·.symbol.name)
    exact sortNames_eq_of_perm own
      (compatible.names_nodup.sublist (List.filter_sublist.map _))
  case size => exact symbols.length_eq
  case bind =>
    intro zone d
    simp only [BoostZones.bind, resolveUpdate, resolveFinish, resolve]

/-- Exports are all registered exactly when each of them follows the scheme of its zone, so that an
empty registry would take it, and no two have the same zone. This does not depend on their order,
and neither does anything that is asked of the registry.
-/
theorem build_of_perm (same : exports.Perm others)
    : ((∃ r, build exports = .ok r) ↔ ∃ other, build others = .ok other)
      ∧ (∀ r other, build exports = .ok r → build others = .ok other → r.Alike other)
      ∧ ((∃ r, build exports = .ok r)
          ↔ (∀ e ∈ exports, ∃ r, empty.register e = .ok r)
            ∧ exports.Pairwise (·.zone ≠ ·.zone)) := by
  refine ⟨?_, ?_, ?_⟩
  · rw [exists_build_iff, exists_build_iff]
    exact ⟨(·.of_perm same), (·.of_perm same.symm)⟩
  · intro r other built rebuilt
    obtain ⟨compatible, rfl⟩ := build_eq_ok_iff.mp built
    obtain ⟨-, rfl⟩ := build_eq_ok_iff.mp rebuilt
    exact compatible.alike same
  · simp only [exists_build_iff, exists_register_empty_iff, ← List.pairwise_map (f := Exports.zone)]
    exact ⟨fun together => ⟨together.regular, together.zones⟩, fun both => ⟨both.1, both.2⟩⟩

end Together

/-- The linked exports can be registered in the other order. -/
theorem build_linked_reversed
    : linkedExports.Perm linkedExports.reverse
      ∧ ∃ r other,
          build linkedExports = .ok r
          ∧ build linkedExports.reverse = .ok other
          ∧ r.Alike other := by
  have same : linkedExports.Perm linkedExports.reverse := (List.reverse_perm _).symm
  obtain ⟨either, alike, -⟩ := build_of_perm same
  have built : build linkedExports = .ok (ofExports linkedExports) := rfl
  obtain ⟨other, rebuilt⟩ := either.mp ⟨_, built⟩
  exact ⟨same, _, other, built, rebuilt, alike _ _ built rebuilt⟩

end Registry
end BoostZones
