import BoostZones.Proofs.Registry.Refusals
import BoostZones.Proofs.Session.Binding

/-! Zones that are registered with nothing to offer. Nothing asks exports for a symbol, so a zone
whose exports have none is registered like any other, and it can work if they say so. It has no
name in the registry then, and whoever chooses it finds out when binding to it.
-/

namespace BoostZones.Registry

/-- The exports that were accepted for the zone have no symbol. -/
def Bare (accepted : List Exports) (zone : Zone) : Prop :=
  ∃ e ∈ accepted, e.zone = zone ∧ e.symbols = []

theorem namesOf_eq_nil_iff {r : Registry} {zone : Zone}
    : r.namesOf zone = [] ↔ ∀ held ∈ r.symbols, held.zone ≠ zone := by
  rw [← List.length_eq_zero_iff, namesOf, (sortNames_perm _).length_eq]
  simp only [List.length_map, List.length_eq_zero_iff, List.filter_eq_nil_iff, beq_iff_eq, ne_eq]

theorem mem_registeredZones_iff {r : Registry} {zone : Zone}
    : zone ∈ r.registeredZones ↔ r.isRegistered zone = true := by
  simp only [registeredZones, List.mem_filter, zone.mem_all, true_and]

section Accepted
variable {accepted : List Exports} {zone : Zone}

theorem namesOf_ofExports_ne_nil_iff
    : (ofExports accepted).namesOf zone ≠ []
      ↔ ∃ e ∈ accepted, e.zone = zone ∧ e.symbols ≠ [] := by
  rw [ne_eq, namesOf_eq_nil_iff]
  constructor
  · intro named
    by_contra unexported
    apply named
    intro held member same
    obtain ⟨e, accepts, symbol, inside, rfl⟩ := mem_symbols_ofExports.mp member
    exact unexported ⟨e, accepts, same, List.ne_nil_of_mem inside⟩
  · intro exported foreign
    obtain ⟨e, accepts, same, filled⟩ := exported
    obtain ⟨symbol, inside⟩ := List.exists_mem_of_ne_nil e.symbols filled
    exact foreign _ (mem_symbols_ofExports.mpr ⟨e, accepts, symbol, inside, rfl⟩) same

theorem exists_accepted_iff
    : (ofExports accepted).isRegistered zone = true ↔ ∃ e ∈ accepted, e.zone = zone := by
  simp only [isRegistered_ofExports, List.mem_map]

/-- Exports that bring a name register their zone. -/
theorem isRegistered_of_named (named : (ofExports accepted).namesOf zone ≠ [])
    : (ofExports accepted).isRegistered zone = true := by
  obtain ⟨e, accepts, same, -⟩ := namesOf_ofExports_ne_nil_iff.mp named
  exact exists_accepted_iff.mpr ⟨e, accepts, same⟩

variable (compatible : Compatible accepted)
include compatible

/-- The exports of a zone without a name have no symbol, and those of one with a name have some, as
there are no others of that zone.
-/
theorem Compatible.named_iff {e : Exports} (accepts : e ∈ accepted) (same : e.zone = zone)
    : (ofExports accepted).namesOf zone ≠ [] ↔ e.symbols ≠ [] := by
  rw [namesOf_ofExports_ne_nil_iff]
  constructor
  · intro exported
    obtain ⟨other, also, twin, filled⟩ := exported
    have only : other = e :=
      List.inj_on_of_nodup_map compatible.zones also accepts (twin.trans same.symm)
    rwa [only] at filled
  · exact fun filled => ⟨e, accepts, same, filled⟩

theorem Compatible.isAvailable_iff
    : (ofExports accepted).isAvailable zone = true
      ↔ ∃ e ∈ accepted, e.zone = zone ∧ e.available = true := by
  rw [(compatible.answersBy zone).available, Option.any_eq_true]
  constructor
  · intro able
    obtain ⟨e, first, able⟩ := able
    exact ⟨e, List.mem_of_find?_eq_some first, key_of_find? first, able⟩
  · intro able
    obtain ⟨e, accepts, rfl, able⟩ := able
    exact ⟨e, find?_of_mem_of_nodup compatible.zones accepts, able⟩

theorem Compatible.registered_iff_named_iff
    : ((ofExports accepted).isRegistered zone = true ↔ (ofExports accepted).namesOf zone ≠ [])
      ↔ ¬Bare accepted zone := by
  constructor
  · intro both bare
    obtain ⟨e, accepts, same, empty⟩ := bare
    have named := both.mp (exists_accepted_iff.mpr ⟨e, accepts, same⟩)
    exact (compatible.named_iff accepts same).mp named empty
  · intro filled
    refine ⟨?_, isRegistered_of_named⟩
    intro registered
    obtain ⟨e, accepts, same⟩ := exists_accepted_iff.mp registered
    exact (compatible.named_iff accepts same).mpr fun empty => filled ⟨e, accepts, same, empty⟩

theorem Compatible.named_of_available_iff
    : ((ofExports accepted).isAvailable zone = true → (ofExports accepted).namesOf zone ≠ [])
      ↔ ∀ e ∈ accepted, e.zone = zone → e.available = true → e.symbols ≠ [] := by
  rw [compatible.isAvailable_iff]
  constructor
  · intro named e accepts same able
    exact (compatible.named_iff accepts same).mp (named ⟨e, accepts, same, able⟩)
  · intro filled available
    obtain ⟨e, accepts, same, able⟩ := available
    exact (compatible.named_iff accepts same).mpr (filled e accepts same able)

/-- Binding looks for the symbol that a bare zone has not. -/
theorem Compatible.bind_of_bare (bare : Bare accepted zone) {d : Descriptor}
    (scores : d.scoreCount ≠ 0)
    : bind (ofExports accepted) zone d
      = .error (.symbolNotFound (zone.symbolName .applyUpdate)) := by
  have missing
      : (ofExports accepted).resolveUpdate zone
        = .error (.symbolNotFound (zone.symbolName .applyUpdate)) := by
    cases resolved : (ofExports accepted).resolveUpdate zone with
    | error reason => rw [(compatible.answersBy zone).withoutUpdate reason resolved]
    | ok entry =>
        obtain ⟨e, accepts, same, empty⟩ := bare
        obtain ⟨other, also, twin, symbol, inside, -⟩ := compatible.resolveUpdate_iff.mp resolved
        have named := namesOf_ofExports_ne_nil_iff.mpr
          ⟨other, also, twin, List.ne_nil_of_mem inside⟩
        exact absurd empty ((compatible.named_iff accepts same).mp named)
  rw [bind, if_neg scores, missing]
  rfl

/-- Exports without a symbol are registered wherever their zone is not there yet. -/
theorem Compatible.exists_register_bare_iff {e : Exports} (empty : e.symbols = [])
    : (∃ added, (ofExports accepted).register e = .ok added)
      ↔ (ofExports accepted).isRegistered e.zone = false := by
  have regular : e.Regular := by
    constructor <;> simp [empty]
  simp only [register_eq_ok_iff, exists_and_left, exists_eq', and_true,
    compatible.objection?_eq_none_iff, regular, true_and]

end Accepted

/-- After any calls to register, a zone with a name is registered. The converse holds of a zone
unless exports without a symbol were accepted for it, which happens whenever they come first; and
what can work has a name unless such exports say that they can. A zone that is registered like that
cannot be bound.
-/
theorem registered_iff_named_unless_bare (calls : List Exports) (zone : Zone)
    : (zone ∈ (run calls).1.registeredZones ↔ (run calls).1.isRegistered zone = true)
      ∧ ((run calls).1.namesOf zone ≠ [] → (run calls).1.isRegistered zone = true)
      ∧ (((run calls).1.isRegistered zone = true ↔ (run calls).1.namesOf zone ≠ [])
          ↔ ¬Bare (run calls).2 zone)
      ∧ (((run calls).1.isAvailable zone = true → (run calls).1.namesOf zone ≠ [])
          ↔ ∀ e ∈ (run calls).2, e.zone = zone → e.available = true → e.symbols ≠ [])
      ∧ (∀ able,
          (∃ added, (run calls).1.register ⟨zone, [], able⟩ = .ok added)
          ↔ (run calls).1.isRegistered zone = false)
      ∧ (Bare (run calls).2 zone
          → ∀ d : Descriptor,
              d.scoreCount ≠ 0
              → bind (run calls).1 zone d
                = .error (.symbolNotFound (zone.symbolName .applyUpdate))) := by
  obtain ⟨holds, compatible⟩ := made_run calls
  rw [holds]
  refine ⟨mem_registeredZones_iff, isRegistered_of_named, compatible.registered_iff_named_iff,
    compatible.named_of_available_iff, ?_, ?_⟩
  · exact fun able => compatible.exists_register_bare_iff rfl
  · exact fun bare d scores => compatible.bind_of_bare bare scores

/-- Lanes that can work and export nothing. -/
def bareLanes : Exports where
  zone := .simd
  symbols := []
  available := true

/-- Bare lanes are registered and chosen, and no objective can be bound to them. -/
theorem bareLanes_are_chosen_and_not_bound
    : (run [bareLanes]).1.registeredZones = [.simd]
      ∧ (run [bareLanes]).1.namesOf .simd = []
      ∧ (run [bareLanes]).1.isAvailable .simd = true
      ∧ (run [bareLanes]).1.best = .ok .simd
      ∧ ∀ d : Descriptor,
          d.scoreCount ≠ 0
          → bind (run [bareLanes]).1 .simd d = .error (.symbolNotFound "ApplyUpdate_simd") := by
  have bare : Bare (run [bareLanes]).2 .simd := ⟨bareLanes, List.mem_cons_self, rfl, rfl⟩
  obtain ⟨-, -, -, -, -, unbound⟩ := registered_iff_named_unless_bare [bareLanes] .simd
  exact ⟨rfl, namesOf_eq_nil_iff.mpr nofun, rfl, rfl, unbound bare⟩

end BoostZones.Registry
