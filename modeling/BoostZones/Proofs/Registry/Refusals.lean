import BoostZones.Proofs.Registry.Runs
import BoostZones.Registry.Linked

/-! What a single registration comes to in a registry that calls to register have made. Exports are
taken as a whole exactly when they follow the scheme of a zone that is not there yet; else the
registry stays as it was, and the refusal is that of the first symbol with a fault, then that of the
zone, then that of the first name that comes again.
-/

namespace BoostZones.Registry

-------------------------------------------------------------------------------
-- Why exports are refused
-------------------------------------------------------------------------------

/-- What is wrong with a symbol: the first of its checks that it does not pass. -/
inductive Offends (r : Registry) (zone : Zone) (symbol : Symbol) : ZoneError → Prop
  | unsupported (never : zone.supports symbol.entry.operation = false)
    : r.Offends zone symbol (.unexpectedCapability zone symbol.entry.operation)
  | misnamed (supported : zone.supports symbol.entry.operation = true)
    (other : symbol.name ≠ zone.symbolName symbol.entry.operation)
    : r.Offends zone symbol
        (.symbolNameMismatch (zone.symbolName symbol.entry.operation) symbol.name)
  | taken {held : Registered} (supported : zone.supports symbol.entry.operation = true)
    (named : symbol.name = zone.symbolName symbol.entry.operation)
    (found : r.find? symbol.name = some held)
    : r.Offends zone symbol (.duplicateSymbol symbol.name held.zone zone)

/-- No symbol of a list has a fault. -/
def Faultless (r : Registry) (zone : Zone) (symbols : List Symbol) : Prop :=
  ∀ symbol ∈ symbols, ∀ reason, ¬ r.Offends zone symbol reason

/-- Why a registry refuses exports. -/
inductive Refuses (r : Registry) (e : Exports) : ZoneError → Prop
  | symbol {before after : List Symbol} {symbol : Symbol} {reason : ZoneError}
    (order : e.symbols = before ++ symbol :: after) (earlier : r.Faultless e.zone before)
    (offends : r.Offends e.zone symbol reason)
    : r.Refuses e reason
  | zone (faultless : r.Faultless e.zone e.symbols) (registered : r.isRegistered e.zone = true)
    : r.Refuses e (.zoneAlreadyRegistered e.zone)
  | repeated {before after : List Symbol} {symbol : Symbol}
    (faultless : r.Faultless e.zone e.symbols) (unregistered : r.isRegistered e.zone = false)
    (order : e.symbols = before ++ symbol :: after) (distinct : (before.map (·.name)).Nodup)
    (again : symbol.name ∈ before.map (·.name))
    : r.Refuses e (.duplicateSymbol symbol.name e.zone e.zone)

section Refusals
variable {r : Registry}

theorem symbolObjection?_eq_some_iff {zone : Zone} {symbol : Symbol} {reason : ZoneError}
    : r.symbolObjection? zone symbol = some reason ↔ r.Offends zone symbol reason := by
  unfold symbolObjection?
  dsimp only
  constructor
  · intro objected
    split at objected
    · next never =>
      cases objected
      exact .unsupported (by simpa using never)
    · next supported =>
      have supported : zone.supports symbol.entry.operation = true := by simpa using supported
      split at objected
      · next other =>
        cases objected
        exact .misnamed supported other
      · next named =>
        obtain ⟨held, found, same⟩ := Option.map_eq_some_iff.1 objected
        cases same
        exact .taken supported (Classical.not_not.1 named) found
  · intro offends
    cases offends with
    | unsupported never => simp [never]
    | misnamed supported other => simp [supported, other]
    | taken supported named found =>
        rw [named] at found
        simp [supported, named, found]

theorem faultless_iff {zone : Zone} {symbols : List Symbol}
    : (∀ symbol ∈ symbols, r.symbolObjection? zone symbol = none)
      ↔ r.Faultless zone symbols := by
  simp only [Faultless, ← symbolObjection?_eq_some_iff, ← Option.eq_none_iff_forall_ne_some]

/-- The name that is reported is the first that is among those before it, by induction on the names,
each of which is one more before the rest.
-/
theorem firstRepeated?_eq_some_iff {seen names : List String} {name : String}
    (fresh : seen.Nodup)
    : firstRepeated? seen names = some name
      ↔ ∃ before after,
          names = before ++ name :: after
          ∧ (before.reverse ++ seen).Nodup
          ∧ name ∈ before.reverse ++ seen := by
  induction names generalizing seen with
  | nil => simp [firstRepeated?]
  | cons first rest ih =>
      unfold firstRepeated?
      by_cases repeated : first ∈ seen
      · rw [if_pos repeated]
        constructor
        · intro found
          cases found
          exact ⟨[], rest, rfl, fresh, repeated⟩
        · intro parts
          obtain ⟨before, after, order, distinct, again⟩ := parts
          cases before with
          | nil =>
              cases order
              rfl
          | cons _ others =>
              cases order
              -- The name before was seen already, so the names before are not distinct.
              simp [List.nodup_append, repeated] at distinct
      · rw [if_neg repeated, ih (List.nodup_cons.2 ⟨repeated, fresh⟩)]
        constructor
        · intro parts
          obtain ⟨before, after, order, distinct, again⟩ := parts
          refine ⟨first :: before, after, by rw [order]; rfl, ?_, ?_⟩
          · simpa using distinct
          · simpa using again
        · intro parts
          obtain ⟨before, after, order, distinct, again⟩ := parts
          cases before with
          | nil =>
              cases order
              exact absurd again repeated
          | cons _ others =>
              cases order
              refine ⟨others, after, rfl, ?_, ?_⟩
              · simpa using distinct
              · simpa using again

/-- A registry refuses exports for just the reasons that there are. -/
theorem objection?_eq_some_iff {e : Exports} {reason : ZoneError}
    : r.objection? e = some reason ↔ r.Refuses e reason := by
  unfold objection?
  cases found : e.symbols.findSome? (r.symbolObjection? e.zone) with
  | some fault =>
      obtain ⟨before, symbol, after, order, offends, earlier⟩ := List.findSome?_eq_some_iff.1 found
      have earlier := faultless_iff.1 earlier
      have offends := symbolObjection?_eq_some_iff.1 offends
      have whole : ¬ r.Faultless e.zone e.symbols :=
        fun faultless => faultless symbol (by simp [order]) fault offends
      constructor
      · intro same
        cases same
        exact .symbol order earlier offends
      · intro refuses
        cases refuses with
        | symbol order' earlier' offends' =>
            have found' := List.findSome?_eq_some_iff.2
              ⟨_, _, _, order', symbolObjection?_eq_some_iff.2 offends',
                faultless_iff.2 earlier'⟩
            exact found.symm.trans found'
        | zone faultless => exact absurd faultless whole
        | repeated faultless => exact absurd faultless whole
  | none =>
      have free := List.findSome?_eq_none_iff.1 found
      have faultless := faultless_iff.1 free
      have passes {before after : List Symbol} {symbol : Symbol} {fault : ZoneError}
          (order : e.symbols = before ++ symbol :: after)
          : ¬ r.Offends e.zone symbol fault :=
        faultless symbol (by simp [order]) fault
      cases registered : r.isRegistered e.zone with
      | true =>
          simp only [if_true, Option.some.injEq]
          constructor
          · intro same
            cases same
            exact .zone faultless registered
          · intro refuses
            cases refuses with
            | symbol order _ offends => exact absurd offends (passes order)
            | zone => rfl
            | repeated _ unregistered =>
                rw [registered] at unregistered
                cases unregistered
      | false =>
          simp only [Bool.false_eq_true, if_false, Option.map_eq_some_iff,
            firstRepeated?_eq_some_iff List.nodup_nil, List.append_nil, List.nodup_reverse,
            List.mem_reverse]
          constructor
          · intro repeats
            obtain ⟨name, ⟨names, others, order, distinct, again⟩, same⟩ := repeats
            obtain ⟨before, rest, parts, rfl, later⟩ := List.map_eq_append_iff.1 order
            obtain ⟨symbol, after, rfl, rfl, rfl⟩ := List.map_eq_cons_iff.1 later
            cases same
            exact .repeated faultless registered parts distinct again
          · intro refuses
            cases refuses with
            | symbol order _ offends => exact absurd offends (passes order)
            | zone _ registered' =>
                rw [registered] at registered'
                cases registered'
            | @repeated before after symbol _ _ order distinct again =>
                refine ⟨symbol.name, ⟨_, after.map (·.name), ?_, distinct, again⟩, rfl⟩
                rw [order, List.map_append, List.map_cons]

theorem register_eq_error_iff {e : Exports} {reason : ZoneError}
    : r.register e = .error reason ↔ r.Refuses e reason := by
  rw [← objection?_eq_some_iff]
  unfold register
  cases r.objection? e <;> simp

end Refusals

-------------------------------------------------------------------------------
-- What is added
-------------------------------------------------------------------------------

/-- A registry holds all of these exports, and for the rest what the registry before held. -/
structure Extends (added r : Registry) (e : Exports) : Prop where
  own : ∀ symbol ∈ e.symbols, added.find? symbol.name = some ⟨e.zone, symbol⟩
  others (name : String) (foreign : ∀ symbol ∈ e.symbols, symbol.name ≠ name)
    : added.find? name = r.find? name
  size : added.size = r.size + e.symbols.length
  capability : added.capability? e.zone = some e.available
  otherCapabilities (zone : Zone) (other : zone ≠ e.zone)
    : added.capability? zone = r.capability? zone

section Accepted
variable {accepted : List Exports} (compatible : Compatible accepted) {e : Exports}
include compatible

/-- A name tells its zone, so the names of a zone that is not registered are free. -/
theorem Compatible.find?_eq_none_of_regular (regular : e.Regular)
    (unregistered : (ofExports accepted).isRegistered e.zone = false)
    : ∀ symbol ∈ e.symbols, (ofExports accepted).find? symbol.name = none := by
  intro symbol member
  rw [Option.eq_none_iff_forall_ne_some]
  intro held found
  rw [regular.named symbol member, compatible.find?_symbolName] at found
  obtain ⟨own, first, -⟩ := found
  have registered : (ofExports accepted).isRegistered e.zone = true := by
    rw [isRegistered, capability?_ofExports, Option.mem_def.1 first]
    rfl
  rw [unregistered] at registered
  cases registered

/-- Exports are accepted exactly when they follow the scheme of a zone that is not there yet. -/
theorem Compatible.objection?_eq_none_iff
    : (ofExports accepted).objection? e = none
      ↔ e.Regular ∧ (ofExports accepted).isRegistered e.zone = false := by
  rw [Registry.objection?_eq_none_iff]
  constructor
  · exact fun acceptable => ⟨acceptable.1, acceptable.2.1⟩
  · intro acceptable
    obtain ⟨regular, unregistered⟩ := acceptable
    exact ⟨regular, unregistered, compatible.find?_eq_none_of_regular regular unregistered⟩

theorem Compatible.extends_add (free : (ofExports accepted).objection? e = none)
    : ((ofExports accepted).add e).Extends (ofExports accepted) e := by
  have grown := compatible.append free
  have capable (zone : Zone)
      : ((ofExports accepted).add e).capability? zone
        = ((ofExports accepted).capability? zone).or
            (if e.zone = zone then some e.available else none) := by
    rw [← ofExports_append, capability?_ofExports, capability?_ofExports, List.find?_append,
      Option.map_or, List.find?_singleton]
    by_cases same : e.zone = zone <;> simp [same]
  constructor
  case own =>
    intro symbol member
    have inside : ⟨e.zone, symbol⟩ ∈ (ofExports (accepted ++ [e])).symbols :=
      mem_symbols_ofExports.2 ⟨e, by simp, symbol, member, rfl⟩
    rw [← ofExports_append]
    exact grown.find?_of_mem inside
  case others =>
    intro name foreign
    have absent
        : (e.symbols.map fun symbol => Registered.mk e.zone symbol).find? (·.symbol.name == name)
          = none := by
      simpa using foreign
    unfold Registry.find? add
    rw [List.find?_append, absent, Option.or_none]
  case size => simp [size, add]
  case capability =>
    have unregistered := (compatible.objection?_eq_none_iff.1 free).2
    have absent : (ofExports accepted).capability? e.zone = none := by
      simpa [isRegistered] using unregistered
    rw [capable, absent]
    simp
  case otherCapabilities =>
    intro zone other
    rw [capable, if_neg other.symm, Option.or_none]

end Accepted

/-- After any calls to register, exports are accepted exactly when they follow the scheme of their
zone and the zone is not registered, and then they are added and nothing else is changed. Exports
that are refused change nothing, and the refusal is that of the first thing wrong with them.
-/
theorem register_all_or_nothing (calls : List Exports) (e : Exports)
    : ((∃ added, (run calls).1.register e = .ok added)
        ↔ e.Regular ∧ (run calls).1.isRegistered e.zone = false)
      ∧ (∀ added,
          (run calls).1.register e = .ok added
          → added.Extends (run calls).1 e ∧ (run (calls ++ [e])).1 = added)
      ∧ (∀ reason, (run calls).1.register e = .error reason ↔ (run calls).1.Refuses e reason)
      ∧ ∀ reason,
          (run calls).1.register e = .error reason → (run (calls ++ [e])).1 = (run calls).1 := by
  have next : run (calls ++ [e]) = attempt (run calls) e := List.foldl_append
  obtain ⟨holds, compatible⟩ := made_run calls
  refine ⟨?_, ?_, fun reason => register_eq_error_iff, ?_⟩
  · rw [holds, ← compatible.objection?_eq_none_iff]
    simp only [register_eq_ok_iff]
    constructor
    · intro accepted
      obtain ⟨added, free, -⟩ := accepted
      exact free
    · exact fun free => ⟨_, free, rfl⟩
  · intro added registered
    rw [next, attempt, registered]
    rw [holds] at registered ⊢
    obtain ⟨free, rfl⟩ := (register_eq_ok_iff _ _ _).1 registered
    exact ⟨compatible.extends_add free, rfl⟩
  · intro reason refused
    rw [next, attempt, refused]

/-- The staged zone with the baseline's symbols after its own, the first of which has a foreign name
and the second an operation that the zone does not support.
-/
def twiceFaulty : Exports :=
  { Zone.offload.exports with
    symbols := Zone.offload.exports.symbols ++ Zone.cpu.exports.symbols }

theorem twiceFaulty_reports_first_fault
    : (run [Zone.cpu.exports]).1.register twiceFaulty
        = .error (.symbolNameMismatch "ApplyUpdate_offload" "ApplyUpdate_cpu")
      ∧ (run [Zone.cpu.exports, twiceFaulty]).1 = (run [Zone.cpu.exports]).1 := by
  obtain ⟨-, -, refused, unchanged⟩ := register_all_or_nothing [Zone.cpu.exports] twiceFaulty
  have order
      : twiceFaulty.symbols
        = Zone.offload.exports.symbols
          ++ ⟨"ApplyUpdate_cpu", .update (Zone.cpu.updateOn .host)⟩
            :: Zone.cpu.exports.symbols.tail :=
    rfl
  have earlier : (run [Zone.cpu.exports]).1.Faultless .offload Zone.offload.exports.symbols := by
    apply faultless_iff.1
    intro symbol member
    cases List.mem_singleton.1 member
    rfl
  have answer := (refused _).2 (.symbol order earlier (.misnamed rfl (by decide)))
  exact ⟨answer, unchanged _ answer⟩

end BoostZones.Registry
