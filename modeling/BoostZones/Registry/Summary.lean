import BoostZones.Registry

/-!
A summary of the registry: for every zone, registered or not, what there is to know about it.
-/

namespace BoostZones

structure ZoneSummary where
  zone : Zone
  linked : Bool
  available : Bool
  baseline : Bool
  /-- The registry can finish metrics by this zone. -/
  finishMetric : Bool
  symbols : List String

def Registry.summarize (r : Registry) : List ZoneSummary :=
  Zone.all.map fun zone => {
    zone
    linked := r.isRegistered zone
    available := r.isAvailable zone
    baseline := zone.isBaseline
    finishMetric := (r.resolveFinish zone).isOk
    symbols := r.namesOf zone
  }

end BoostZones
