import BoostZones.Registry
import BoostZones.Session.Error
import BoostZones.Settings

/-!
The choice of a zone. Left to itself the choice falls on the fastest zone that can work; a zone
that is asked for and cannot work is an error, unless the baseline may stand in for it.
-/

namespace BoostZones.Registry

/-- The zones from the most to the least preferred. -/
def preference : List Zone :=
  [.offload, .simd, .cpu]

/-- The most preferred zone that can work. -/
def best (r : Registry) : Except RunError Zone :=
  match preference.find? r.isAvailable with
  | some zone => .ok zone
  | none => .error .noZoneAvailable

/-- The zone that the settings choose. -/
def select (r : Registry) (s : ZoneSettings) : Except RunError Zone :=
  match s.selection with
  | .auto => r.best
  | .fixed zone =>
    if r.isAvailable zone then .ok zone
    else if s.fallback ∧ zone ≠ Zone.baseline ∧ r.isAvailable Zone.baseline then
      .ok Zone.baseline
    else .error (.zone (.zoneUnavailable zone))

end BoostZones.Registry
