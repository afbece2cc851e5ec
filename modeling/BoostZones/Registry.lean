import BoostZones.Kernel.Entry

/-!
The registry of zones. A zone comes with all its symbols at once, and either all of them are
registered or none is. A name is registered once and never replaced, and so is a zone; names
follow the scheme of the zone's symbols, so a name tells where it came from.
-/

namespace BoostZones

/-- What a symbol stands for. -/
inductive Entry where
  | update (entry : UpdateEntry)
  | finish (entry : FinishEntry)

def Entry.operation : Entry → Operation
  | .update _ => .applyUpdate
  | .finish _ => .finishMetric

/-- An entry under the name that it is exported by. -/
structure Symbol where
  name : String
  entry : Entry

/-- All that a zone exports. -/
structure Exports where
  zone : Zone
  symbols : List Symbol
  /-- The zone can work on this machine. -/
  available : Bool

/-- A symbol with the zone that it was registered for. -/
structure Registered where
  zone : Zone
  symbol : Symbol

structure Registry where
  symbols : List Registered
  /-- The registered zones, each with whether it can work on this machine. -/
  zones : List (Zone × Bool)

namespace Registry

def empty : Registry := ⟨[], []⟩

-------------------------------------------------------------------------------
-- Questions
-------------------------------------------------------------------------------

/-- The symbol registered under a name. -/
def find? (r : Registry) (name : String) : Option Registered :=
  r.symbols.find? (·.symbol.name == name)

/-- What is registered under a name. -/
def resolve? (r : Registry) (name : String) : Option Entry :=
  (r.find? name).map (·.symbol.entry)

/-- The zone's entry for updates. -/
def resolveUpdate (r : Registry) (zone : Zone) : Except ZoneError UpdateEntry :=
  let name := zone.symbolName .applyUpdate
  match r.resolve? name with
  | some (.update entry) => .ok entry
  | _ => .error (.symbolNotFound name)

/-- The zone's entry for finishing a metric, which only the baseline can have. -/
def resolveFinish (r : Registry) (zone : Zone) : Except ZoneError FinishEntry :=
  if zone.supports .finishMetric then
    let name := zone.symbolName .finishMetric
    match r.resolve? name with
    | some (.finish entry) => .ok entry
    | _ => .error (.symbolNotFound name)
  else .error (.capabilityAbsent zone .finishMetric)

/-- Whether a registered zone can work; no answer for a zone that is not registered. -/
def capability? (r : Registry) (zone : Zone) : Option Bool :=
  r.zones.lookup zone

def isRegistered (r : Registry) (zone : Zone) : Bool :=
  (r.capability? zone).isSome

/-- The zone is registered and can work. -/
def isAvailable (r : Registry) (zone : Zone) : Bool :=
  (r.capability? zone).getD false

/-- The registered zones, in the order of their ids. -/
def registeredZones (r : Registry) : List Zone :=
  Zone.all.filter r.isRegistered

/-- The zones that can work, in the order of their ids. -/
def availableZones (r : Registry) : List Zone :=
  Zone.all.filter r.isAvailable

/-- Names in the order of their characters. -/
def sortNames (names : List String) : List String :=
  names.mergeSort fun a b => decide (a ≤ b)

def names (r : Registry) : List String :=
  sortNames (r.symbols.map (·.symbol.name))

/-- The names registered for a zone. -/
def namesOf (r : Registry) (zone : Zone) : List String :=
  sortNames ((r.symbols.filter (·.zone == zone)).map (·.symbol.name))

def size (r : Registry) : Nat :=
  r.symbols.length

/-- The zone is registered and supports the operation. -/
def require (r : Registry) (zone : Zone) (op : Operation) : Except ZoneError Unit :=
  if !r.isRegistered zone then .error (.zoneUnavailable zone)
  else if !zone.supports op then .error (.capabilityAbsent zone op)
  else .ok ()

-------------------------------------------------------------------------------
-- Registering
-------------------------------------------------------------------------------

/-- What keeps a symbol out of the registry. -/
def symbolObjection? (r : Registry) (zone : Zone) (symbol : Symbol) : Option ZoneError :=
  let op := symbol.entry.operation
  let expected := zone.symbolName op
  if !zone.supports op then some (.unexpectedCapability zone op)
  else if symbol.name ≠ expected then some (.symbolNameMismatch expected symbol.name)
  else (r.find? symbol.name).map fun held => .duplicateSymbol symbol.name held.zone zone

/-- The first name of a list that is among the names before it. -/
def firstRepeated? (before : List String) : List String → Option String
  | [] => none
  | name :: rest =>
    if name ∈ before then some name else firstRepeated? (name :: before) rest

/-- What keeps exports out of the registry: one of their symbols, then their zone, then a name
that they hold twice. -/
def objection? (r : Registry) (e : Exports) : Option ZoneError :=
  match e.symbols.findSome? (r.symbolObjection? e.zone) with
  | some reason => some reason
  | none =>
    if r.isRegistered e.zone then some (.zoneAlreadyRegistered e.zone)
    else
      (firstRepeated? [] (e.symbols.map (·.name))).map fun name =>
        .duplicateSymbol name e.zone e.zone

/-- The registry with all symbols of a zone added. -/
def add (r : Registry) (e : Exports) : Registry where
  symbols := r.symbols ++ e.symbols.map fun symbol => ⟨e.zone, symbol⟩
  zones := r.zones ++ [(e.zone, e.available)]

/-- Registers a zone, or tells why not. -/
def register (r : Registry) (e : Exports) : Except ZoneError Registry :=
  match r.objection? e with
  | some reason => .error reason
  | none => .ok (r.add e)

/-- The registry of a list of exports, registered one after the other. -/
def build (exports : List Exports) : Except ZoneError Registry :=
  exports.foldlM register empty

theorem register_eq_ok_iff (r : Registry) (e : Exports) (added : Registry)
    : r.register e = .ok added ↔ r.objection? e = none ∧ r.add e = added := by
  unfold register
  cases r.objection? e <;> simp

end Registry
end BoostZones
