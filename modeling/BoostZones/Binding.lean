import BoostZones.Registry

/-!
Bindings. An objective is bound to a zone by finding every entry that the zone has to have; the
binding then holds those entries and the handle that tells them the objective. A zone without a
finishing entry of its own never borrows that of another.
-/

namespace BoostZones

structure Binding where
  zone : Zone
  handle : Handle
  update : UpdateEntry
  finish : Option FinishEntry

/-- Binds a descriptor to a zone of the registry. -/
def bind (r : Registry) (zone : Zone) (d : Descriptor) : Except ZoneError Binding := do
  if d.scoreCount = 0 then throw (.objectiveMismatch "c_scores deve ser >= 1")
  let update ← r.resolveUpdate zone
  let finish ←
    if zone.supports .finishMetric then some <$> r.resolveFinish zone else pure none
  return { zone, handle := d.toHandle zone, update, finish }

namespace Binding

def supports (b : Binding) : Operation → Bool
  | .applyUpdate => true
  | .finishMetric => b.finish.isSome

/-- Calls the zone's entry on a record, or without one. -/
def call (b : Binding) (record : Option Transfer) : Int32 × Option Transfer :=
  b.update (some b.handle) record

/-- Finishes the weighted mean of a metric. No number is an error unless it was given. -/
def finishMetric (b : Binding) (mean : Float) : Except ZoneError Float :=
  match b.finish with
  | none => .error (.capabilityAbsent b.zone .finishMetric)
  | some finish =>
    let value := finish (some b.handle) mean
    if value.isNaN && !mean.isNaN then
      .error (.internal ("FinishMetric da zona '" ++ b.zone.name ++ "' devolveu NaN"))
    else .ok value

end Binding
end BoostZones
