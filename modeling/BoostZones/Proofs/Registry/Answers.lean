import BoostZones.Proofs.Registry.Runs

/-! What a registry answers after any calls to register. Its names are sorted and told apart by
their zones, and a zone's entries and its capability are those of the exports that were accepted
for it first; whatever is tried afterwards replaces nothing.
-/

namespace BoostZones.Registry

-------------------------------------------------------------------------------
-- Lists of names
-------------------------------------------------------------------------------

theorem sortNames_perm (names : List String) : (sortNames names).Perm names :=
  List.mergeSort_perm names _

/-- Sorted names without repetition increase. -/
theorem sortNames_increasing {names : List String} (distinct : names.Nodup)
    : (sortNames names).Pairwise (· < ·) := by
  have sorted : (sortNames names).Pairwise fun a b => decide (a ≤ b) = true := by
    apply List.pairwise_mergeSort
    · intro a b c first second
      exact decide_eq_true (String.le_trans (of_decide_eq_true first) (of_decide_eq_true second))
    · intro a b
      simpa using String.le_total a b
  have apart : (sortNames names).Nodup := (sortNames_perm names).nodup_iff.2 distinct
  apply (sorted.and apart).imp
  intro a b ordered
  obtain ⟨le, ne⟩ := ordered
  exact String.not_le.1 fun ge => ne (String.le_antisymm (of_decide_eq_true le) ge)

/-- The names of the zones are all names, each once. -/
theorem namesOf_perm_names (r : Registry) : (Zone.all.flatMap r.namesOf).Perm r.names := by
  have distinct : Zone.all.Nodup := by decide
  have all : (r.symbols.filter fun held => decide (held.zone ∈ Zone.all)) = r.symbols :=
    List.filter_eq_self.2 fun held _ => decide_eq_true held.zone.mem_all
  have parts := (flatMap_filter_perm (·.zone) r.symbols distinct).map (·.symbol.name)
  rw [all, List.map_flatMap] at parts
  have sorted
      : (Zone.all.flatMap r.namesOf).Perm
          (Zone.all.flatMap fun zone =>
            (r.symbols.filter (·.zone == zone)).map (·.symbol.name)) :=
    List.Perm.flatMap_left _ fun zone _ => sortNames_perm _
  exact sorted.trans (parts.trans (sortNames_perm _).symm)

theorem length_namesOf_add (r : Registry)
    : (r.namesOf .cpu).length + (r.namesOf .simd).length + (r.namesOf .offload).length
      = r.size := by
  have counted := r.namesOf_perm_names.length_eq
  rw [names, (sortNames_perm _).length_eq, List.length_map] at counted
  simp only [Zone.all, List.flatMap_cons, List.flatMap_nil, List.length_append, List.append_nil,
    ← Nat.add_assoc] at counted
  exact counted

-------------------------------------------------------------------------------
-- Entries of a zone
-------------------------------------------------------------------------------

theorem resolveUpdate_eq_ok_iff {r : Registry} {zone : Zone} {entry : UpdateEntry}
    : r.resolveUpdate zone = .ok entry
      ↔ r.resolve? (zone.symbolName .applyUpdate) = some (.update entry) := by
  unfold resolveUpdate
  dsimp only
  cases r.resolve? (zone.symbolName .applyUpdate) with
  | none => simp
  | some held => cases held <;> simp

theorem resolveFinish_eq_ok_iff {r : Registry} {zone : Zone} {entry : FinishEntry}
    : r.resolveFinish zone = .ok entry
      ↔ zone.supports .finishMetric = true
        ∧ r.resolve? (zone.symbolName .finishMetric) = some (.finish entry) := by
  unfold resolveFinish
  dsimp only
  cases zone.supports .finishMetric with
  | false => simp
  | true =>
      cases r.resolve? (zone.symbolName .finishMetric) with
      | none => simp
      | some held => cases held <;> simp

/-- The registry answers for a zone by exports of the zone, or as for a zone without exports. -/
structure AnswersBy (r : Registry) (zone : Zone) (exports : Option Exports) : Prop where
  update (entry : UpdateEntry)
    : r.resolveUpdate zone = .ok entry
      ↔ ∃ e ∈ exports, ∃ symbol ∈ e.symbols, symbol.entry = .update entry
  withoutUpdate
    : ∀ reason,
        r.resolveUpdate zone = .error reason
        → reason = .symbolNotFound (zone.symbolName .applyUpdate)
  finish (entry : FinishEntry)
    : r.resolveFinish zone = .ok entry
      ↔ ∃ e ∈ exports, ∃ symbol ∈ e.symbols, symbol.entry = .finish entry
  withoutFinish
    : ∀ reason,
        r.resolveFinish zone = .error reason
        → reason
          = if zone.supports .finishMetric then .symbolNotFound (zone.symbolName .finishMetric)
            else .capabilityAbsent zone .finishMetric
  available : r.isAvailable zone = exports.any (·.available)

section Accepted
variable {accepted : List Exports} (compatible : Compatible accepted)
include compatible

theorem Compatible.resolve?_symbolName {zone : Zone} {op : Operation} {entry : Entry}
    : (ofExports accepted).resolve? (zone.symbolName op) = some entry
      ↔ entry.operation = op
        ∧ ∃ e ∈ accepted.find? (·.zone == zone), ∃ symbol ∈ e.symbols, symbol.entry = entry := by
  unfold resolve?
  simp only [Option.map_eq_some_iff, compatible.find?_symbolName]
  constructor
  · intro resolved
    rcases resolved with ⟨_, ⟨e, first, symbol, inside, rfl, rfl⟩, rfl⟩
    exact ⟨rfl, e, first, symbol, inside, rfl⟩
  · intro exported
    rcases exported with ⟨rfl, e, first, symbol, inside, rfl⟩
    exact ⟨_, ⟨e, first, symbol, inside, rfl, rfl⟩, rfl⟩

theorem Compatible.answersBy (zone : Zone)
    : (ofExports accepted).AnswersBy zone (accepted.find? (·.zone == zone)) := by
  constructor
  case update =>
    intro entry
    rw [resolveUpdate_eq_ok_iff, compatible.resolve?_symbolName]
    exact and_iff_right rfl
  case withoutUpdate =>
    intro reason failed
    unfold resolveUpdate at failed
    dsimp only at failed
    split at failed <;> cases failed
    rfl
  case finish =>
    intro entry
    rw [resolveFinish_eq_ok_iff, compatible.resolve?_symbolName]
    constructor
    · exact fun resolved => resolved.2.2
    · intro exported
      refine ⟨?_, rfl, exported⟩
      -- Exports that are accepted have no symbol that their zone does not support.
      obtain ⟨e, first, symbol, inside, finishing⟩ := exported
      have regular := compatible.regular e (List.mem_of_find?_eq_some first)
      have supported := regular.supported symbol inside
      rwa [key_of_find? first, finishing] at supported
  case withoutFinish =>
    intro reason failed
    unfold resolveFinish at failed
    dsimp only at failed
    split at failed
    · next finishes =>
      rw [if_pos finishes]
      split at failed <;> cases failed
      rfl
    · next never =>
      rw [if_neg never]
      cases failed
      rfl
  case available =>
    rw [isAvailable, capability?_ofExports]
    cases accepted.find? (·.zone == zone) <;> rfl

end Accepted

-------------------------------------------------------------------------------
-- The registry of a run
-------------------------------------------------------------------------------

/-- The registry is in order, and it answers for every zone by the exports that were accepted
for it first.
-/
structure Sound (r : Registry) (accepted : List Exports) : Prop where
  stored
    : ∀ name ∈ r.names,
        ∃ held ∈ r.find? name,
          name = held.zone.symbolName held.symbol.entry.operation
          ∧ held.zone.supports held.symbol.entry.operation = true
          ∧ r.isRegistered held.zone = true
  names : r.names.Pairwise (· < ·)
  namesOf (zone : Zone) : (r.namesOf zone).Pairwise (· < ·)
  partition : (Zone.all.flatMap r.namesOf).Perm r.names
  size
    : (r.namesOf .cpu).length + (r.namesOf .simd).length + (r.namesOf .offload).length = r.size
  answers (zone : Zone) : r.AnswersBy zone (accepted.find? (·.zone == zone))

theorem Compatible.sound {accepted : List Exports} (compatible : Compatible accepted)
    : (ofExports accepted).Sound accepted := by
  have distinct := compatible.names_nodup
  constructor
  case stored =>
    intro name member
    obtain ⟨held, inside, rfl⟩ := List.mem_map.1 ((sortNames_perm _).mem_iff.1 member)
    exact ⟨held, compatible.find?_of_mem inside, compatible.stored inside⟩
  case names => exact sortNames_increasing distinct
  case namesOf =>
    intro zone
    exact sortNames_increasing (distinct.sublist (List.filter_sublist.map _))
  case partition => exact namesOf_perm_names _
  case size => exact length_namesOf_add _
  case answers => exact compatible.answersBy

/-- Whatever calls to register were made, and whichever of them were refused, the registry is sound
for those that were accepted, and no later call takes away a symbol or a capability.
-/
theorem run_sound (calls later : List Exports)
    : (run calls).1.Sound (run calls).2
      ∧ (run calls).2 <+: (run (calls ++ later)).2
      ∧ (∀ name, ∀ held ∈ (run calls).1.find? name,
          (run (calls ++ later)).1.find? name = some held)
      ∧ ∀ zone, ∀ able ∈ (run calls).1.capability? zone,
          (run (calls ++ later)).1.capability? zone = some able := by
  obtain ⟨holds, compatible⟩ := made_run calls
  have grown := accepted_grow calls later
  obtain ⟨next, -⟩ := made_run (calls ++ later)
  rw [holds, next]
  refine ⟨compatible.sound, grown, ?_, ?_⟩
  · intro name held found
    exact (symbols_grow grown).find?_eq_some found
  · intro zone able registered
    rw [capability?_ofExports, Option.mem_def, Option.map_eq_some_iff] at registered
    obtain ⟨e, first, rfl⟩ := registered
    rw [capability?_ofExports, grown.find?_eq_some first]
    rfl

end BoostZones.Registry
