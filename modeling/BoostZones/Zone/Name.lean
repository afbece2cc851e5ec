import BoostZones.Text.Blank
import BoostZones.Zone.Error

/-!
Zone names as people write them: in letters of either case, with blanks around them.
-/

namespace BoostZones.Zone

/-- Reads a zone's name. The error keeps the text as it was given. -/
def parse (text : String) : Except ZoneError Zone :=
  let name := Text.lower (Text.trim text)
  match all.find? (·.name == name) with
  | some zone => .ok zone
  | none => .error (.unknownZone text)

/-- A text names a zone exactly when, trimmed and in small letters, it is the zone's name. -/
theorem parse_eq_ok_iff (text : String) (zone : Zone)
    : parse text = .ok zone ↔ Text.lower (Text.trim text) = zone.name := by
  have named (z w : Zone) : z = w ↔ z.name = w.name := by
    cases z <;> cases w <;> decide
  unfold parse
  dsimp only
  split
  · next other found =>
    have same := List.find?_some found
    simp only [beq_iff_eq] at same
    rw [← same]
    simpa using named other zone
  · next found =>
    have absent := List.find?_eq_none.1 found zone zone.mem_all
    simp only [beq_iff_eq] at absent
    simp [Ne.symm absent]

end BoostZones.Zone
