import BoostZones.Registry

/-! Which exports are registered. The checks of a registration go through the symbols, the zone and
the names within the exports in turn; told without that order, they ask the exports to follow the
scheme of their zone, and the registry to have neither the zone nor one of the names.
-/

namespace BoostZones

/-- Exports that follow the scheme of their zone, whatever registry they are meant for. -/
structure Exports.Regular (e : Exports) : Prop where
  supported : ∀ symbol ∈ e.symbols, e.zone.supports symbol.entry.operation = true
  named : ∀ symbol ∈ e.symbols, symbol.name = e.zone.symbolName symbol.entry.operation
  distinct : (e.symbols.map (·.name)).Nodup

namespace Registry
variable {r : Registry} {e : Exports}

theorem symbolObjection?_eq_none_iff {zone : Zone} {symbol : Symbol}
    : r.symbolObjection? zone symbol = none
      ↔ zone.supports symbol.entry.operation = true
        ∧ symbol.name = zone.symbolName symbol.entry.operation
        ∧ r.find? symbol.name = none := by
  unfold symbolObjection?
  dsimp only
  cases supported : zone.supports symbol.entry.operation with
  | false => exact iff_of_false nofun nofun
  | true =>
      by_cases named : symbol.name = zone.symbolName symbol.entry.operation
      · simp [named]
      · simp [named]

/-- No name is repeated when they are distinct and none is among those before, by induction on
the names, each of which is one more before the rest.
-/
theorem firstRepeated?_eq_none_iff (before names : List String)
    : firstRepeated? before names = none
      ↔ names.Nodup ∧ ∀ name ∈ names, name ∉ before := by
  induction names generalizing before with
  | nil => simp [firstRepeated?]
  | cons name rest ih =>
      unfold firstRepeated?
      by_cases repeated : name ∈ before
      · rw [if_pos repeated]
        exact iff_of_false nofun fun free => free.2 name List.mem_cons_self repeated
      · rw [if_neg repeated, ih, List.nodup_cons, List.forall_mem_cons]
        simp only [List.mem_cons, not_or]
        constructor
        · intro apart
          obtain ⟨distinct, free⟩ := apart
          exact ⟨⟨fun member => (free name member).1 rfl, distinct⟩, repeated,
            fun other member => (free other member).2⟩
        · intro apart
          obtain ⟨⟨new, distinct⟩, -, free⟩ := apart
          refine ⟨distinct, fun other member => ⟨?_, free other member⟩⟩
          intro same
          rw [same] at member
          exact new member

/-- Exports are accepted when they are regular and bring only what is new to the registry. -/
theorem objection?_eq_none_iff
    : r.objection? e = none
      ↔ e.Regular
        ∧ r.isRegistered e.zone = false
        ∧ ∀ symbol ∈ e.symbols, r.find? symbol.name = none := by
  have symbols := List.findSome?_eq_none_iff (p := r.symbolObjection? e.zone) (l := e.symbols)
  simp only [symbolObjection?_eq_none_iff] at symbols
  have names := firstRepeated?_eq_none_iff [] (e.symbols.map (·.name))
  unfold objection?
  constructor
  · intro accepted
    split at accepted
    · cases accepted
    · next free =>
      split at accepted
      · cases accepted
      · next unregistered =>
        have each := symbols.1 free
        have distinct := (names.1 (Option.map_eq_none_iff.1 accepted)).1
        refine ⟨⟨?_, ?_, distinct⟩, Bool.eq_false_iff.2 unregistered, ?_⟩
        · exact fun symbol member => (each symbol member).1
        · exact fun symbol member => (each symbol member).2.1
        · exact fun symbol member => (each symbol member).2.2
  · intro acceptable
    obtain ⟨regular, unregistered, fresh⟩ := acceptable
    have free := symbols.2 fun symbol member =>
      ⟨regular.supported symbol member, regular.named symbol member, fresh symbol member⟩
    rw [free, unregistered, names.2 ⟨regular.distinct, nofun⟩]
    rfl

end Registry
end BoostZones
