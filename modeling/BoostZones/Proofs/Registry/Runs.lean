import BoostZones.Proofs.Registry.Acceptance
import BoostZones.Proofs.Sequence.Loops
import BoostZones.Proofs.Sequence.Parts
import Mathlib.Data.List.Nodup

/-! Registries after any calls to register. Whatever exports are tried, and however many of them
are refused, the registry is made of those that were accepted, each of another zone and each
regular. A name tells its zone, so no name is there twice, and a zone answers by its own exports.
-/

namespace BoostZones

theorem key_of_find? [BEq κ] [LawfulBEq κ] {key : α → κ} {xs : List α} {k : κ} {x : α}
    (found : xs.find? (key · == k) = some x)
    : key x = k := by
  have same := List.find?_some found
  exact eq_of_beq same

/-- Where keys are distinct, an entry is found by its own. -/
theorem find?_of_mem_of_nodup [BEq κ] [LawfulBEq κ] {key : α → κ} {xs : List α}
    (distinct : (xs.map key).Nodup) {x : α} (member : x ∈ xs)
    : xs.find? (key · == key x) = some x := by
  have held : (xs.find? (key · == key x)).isSome = true :=
    List.find?_isSome.2 ⟨x, member, beq_self_eq_true (key x)⟩
  obtain ⟨y, found⟩ := Option.isSome_iff_exists.1 held
  have inside := List.mem_of_find?_eq_some found
  rw [found, List.inj_on_of_nodup_map distinct inside member (key_of_find? found)]

namespace Registry

-------------------------------------------------------------------------------
-- Runs
-------------------------------------------------------------------------------

/-- One call to register, with the exports accepted so far. Refused exports change nothing. -/
def attempt (state : Registry × List Exports) (e : Exports) : Registry × List Exports :=
  match state.1.register e with
  | .ok added => (added, state.2 ++ [e])
  | .error _ => state

/-- The registry after calls to register, and the exports that were accepted, in their order. -/
def run (calls : List Exports) : Registry × List Exports :=
  calls.foldl attempt (empty, [])

/-- The registry that holds just these exports. -/
def ofExports (accepted : List Exports) : Registry where
  symbols := accepted.flatMap fun e => e.symbols.map fun symbol => ⟨e.zone, symbol⟩
  zones := accepted.map fun e => (e.zone, e.available)

theorem ofExports_append (accepted : List Exports) (e : Exports)
    : ofExports (accepted ++ [e]) = (ofExports accepted).add e := by
  simp [ofExports, add]

theorem symbols_grow {accepted grown : List Exports} (kept : accepted <+: grown)
    : (ofExports accepted).symbols <+: (ofExports grown).symbols := by
  obtain ⟨rest, rfl⟩ := kept
  exact ⟨(ofExports rest).symbols, List.flatMap_append.symm⟩

/-- Exports that a registry can hold together. -/
structure Compatible (accepted : List Exports) : Prop where
  regular : ∀ e ∈ accepted, e.Regular
  zones : (accepted.map (·.zone)).Nodup

section Held
variable {accepted : List Exports}

theorem mem_symbols_ofExports {held : Registered}
    : held ∈ (ofExports accepted).symbols
      ↔ ∃ e ∈ accepted, ∃ symbol ∈ e.symbols, held = ⟨e.zone, symbol⟩ := by
  simp only [ofExports, List.mem_flatMap, List.mem_map, eq_comm]

theorem capability?_ofExports (zone : Zone)
    : (ofExports accepted).capability? zone
      = (accepted.find? (·.zone == zone)).map (·.available) := by
  unfold capability? ofExports
  induction accepted with
  | nil => rfl
  | cons e rest ih =>
      rw [List.map_cons, List.lookup_cons, List.find?_cons, BEq.comm, ih]
      cases e.zone == zone <;> rfl

theorem isRegistered_ofExports {zone : Zone}
    : (ofExports accepted).isRegistered zone = true ↔ zone ∈ accepted.map (·.zone) := by
  rw [isRegistered, capability?_ofExports, Option.isSome_map, List.find?_isSome, List.mem_map]
  simp only [beq_iff_eq]

/-- Exports that are accepted can be held with those before. -/
theorem Compatible.append (compatible : Compatible accepted) {e : Exports}
    (free : (ofExports accepted).objection? e = none)
    : Compatible (accepted ++ [e]) := by
  obtain ⟨regular, unregistered, -⟩ := objection?_eq_none_iff.1 free
  constructor
  case regular =>
    intro other member
    rcases List.mem_append.1 member with before | last
    · exact compatible.regular other before
    · rwa [List.mem_singleton.1 last]
  case zones =>
    have new : e.zone ∉ accepted.map (·.zone) := by
      rw [← isRegistered_ofExports, unregistered]
      exact Bool.false_ne_true
    rw [List.map_append, List.map_singleton, ← List.concat_eq_append]
    exact compatible.zones.concat new

end Held

/-- What a run comes to: the registry is made of the accepted exports, and these go together. -/
def Made (state : Registry × List Exports) : Prop :=
  state.1 = ofExports state.2 ∧ Compatible state.2

theorem made_empty : Made (empty, []) :=
  ⟨rfl, by simp, List.nodup_nil⟩

theorem made_attempt {state : Registry × List Exports} (made : Made state) (e : Exports)
    : Made (attempt state e) ∧ state.2 <+: (attempt state e).2 := by
  obtain ⟨holds, compatible⟩ := made
  unfold attempt
  split
  · next added registered =>
    obtain ⟨free, rfl⟩ := (register_eq_ok_iff _ _ _).1 registered
    rw [holds] at free ⊢
    exact ⟨⟨(ofExports_append state.2 e).symm, compatible.append free⟩,
      List.prefix_append state.2 [e]⟩
  · exact ⟨⟨holds, compatible⟩, List.prefix_rfl⟩

/-- Later calls keep what the earlier ones came to, by induction on them. -/
theorem made_foldl (later : List Exports) {state : Registry × List Exports} (made : Made state)
    : Made (later.foldl attempt state) ∧ state.2 <+: (later.foldl attempt state).2 := by
  induction later generalizing state with
  | nil => exact ⟨made, List.prefix_rfl⟩
  | cons e rest ih =>
      obtain ⟨next, kept⟩ := made_attempt made e
      obtain ⟨last, grown⟩ := ih next
      exact ⟨last, kept.trans grown⟩

theorem made_run (calls : List Exports) : Made (run calls) :=
  (made_foldl calls made_empty).1

theorem accepted_grow (calls later : List Exports)
    : (run calls).2 <+: (run (calls ++ later)).2 := by
  have split : run (calls ++ later) = later.foldl attempt (run calls) := List.foldl_append
  rw [split]
  exact (made_foldl later (made_run calls)).2

/-- Exports that are registered one after the other without a refusal are all accepted, by induction
on them.
-/
theorem made_of_foldlM {exports : List Exports} {state : Registry × List Exports} {r : Registry}
    (made : Made state) (built : exports.foldlM register state.1 = .ok r)
    : Made (r, state.2 ++ exports) := by
  induction exports generalizing state with
  | nil =>
      cases built
      simpa using made
  | cons e rest ih =>
      obtain ⟨added, registered, later⟩ := bind_eq_ok_iff.1 built
      have accepted : attempt state e = (added, state.2 ++ [e]) := by
        unfold attempt
        rw [registered]
      have next := (made_attempt made e).1
      rw [accepted] at next
      simpa using ih next later

/-- A registry that is built from exports is made of all of them, and they go together. -/
theorem made_of_build {exports : List Exports} {r : Registry} (built : build exports = .ok r)
    : r = ofExports exports ∧ Compatible exports :=
  made_of_foldlM made_empty built

-------------------------------------------------------------------------------
-- Names
-------------------------------------------------------------------------------

section Names
variable {accepted : List Exports} (compatible : Compatible accepted)
include compatible

/-- A symbol is stored under the name of a registered zone and of what the zone supports. -/
theorem Compatible.stored {held : Registered} (member : held ∈ (ofExports accepted).symbols)
    : held.symbol.name = held.zone.symbolName held.symbol.entry.operation
      ∧ held.zone.supports held.symbol.entry.operation = true
      ∧ (ofExports accepted).isRegistered held.zone = true := by
  obtain ⟨e, accepts, symbol, inside, rfl⟩ := mem_symbols_ofExports.1 member
  have regular := compatible.regular e accepts
  refine ⟨regular.named symbol inside, regular.supported symbol inside, ?_⟩
  exact isRegistered_ofExports.2 (List.mem_map_of_mem accepts)

/-- No name is stored twice: within exports names are distinct, and exports of different zones
have different names.
-/
theorem Compatible.names_nodup
    : ((ofExports accepted).symbols.map (·.symbol.name)).Nodup := by
  have names
      : (ofExports accepted).symbols.map (·.symbol.name)
        = accepted.flatMap fun e => e.symbols.map (·.name) := by
    simp only [ofExports, List.map_flatMap, List.map_map]
    rfl
  rw [names, List.nodup_flatMap]
  refine ⟨fun e member => (compatible.regular e member).distinct, ?_⟩
  apply (List.pairwise_map.1 compatible.zones).imp_of_mem
  intro e other member otherMember apart name first second
  obtain ⟨symbol, inside, rfl⟩ := List.mem_map.1 first
  obtain ⟨twin, twinInside, same⟩ := List.mem_map.1 second
  rw [(compatible.regular e member).named symbol inside,
    (compatible.regular other otherMember).named twin twinInside, Zone.symbolName_inj] at same
  exact apart same.1.symm

theorem Compatible.find?_of_mem {held : Registered}
    (member : held ∈ (ofExports accepted).symbols)
    : (ofExports accepted).find? held.symbol.name = some held :=
  find?_of_mem_of_nodup compatible.names_nodup member

/-- Under the name for a zone stands what the zone's own exports have for the operation. -/
theorem Compatible.find?_symbolName {zone : Zone} {op : Operation} {held : Registered}
    : (ofExports accepted).find? (zone.symbolName op) = some held
      ↔ ∃ e ∈ accepted.find? (·.zone == zone),
          ∃ symbol ∈ e.symbols, symbol.entry.operation = op ∧ held = ⟨zone, symbol⟩ := by
  constructor
  · intro found
    have member := List.mem_of_find?_eq_some found
    have name := key_of_find? found
    obtain ⟨e, accepts, symbol, inside, rfl⟩ := mem_symbols_ofExports.1 member
    rw [(compatible.stored member).1, Zone.symbolName_inj] at name
    obtain ⟨rfl, rfl⟩ := name
    exact ⟨e, find?_of_mem_of_nodup compatible.zones accepts, symbol, inside, rfl, rfl⟩
  · intro exported
    rcases exported with ⟨e, first, symbol, inside, rfl, rfl⟩
    have accepts := List.mem_of_find?_eq_some first
    have same : e.zone = zone := key_of_find? first
    subst same
    have member : ⟨e.zone, symbol⟩ ∈ (ofExports accepted).symbols :=
      mem_symbols_ofExports.2 ⟨e, accepts, symbol, inside, rfl⟩
    rw [← (compatible.regular e accepts).named symbol inside]
    exact compatible.find?_of_mem member

end Names
end Registry
end BoostZones
