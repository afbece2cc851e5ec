/-!
JSON values. A number that is a count fits a 64-bit word and has neither sign, point nor
exponent; every other number is a double. An object keeps its fields in the order of the text,
and repeated ones too.
-/

namespace BoostZones

inductive Json where
  | null
  | boolean (b : Bool)
  | count (n : UInt64)
  | number (x : Float)
  | text (content : String)
  | list (items : List Json)
  | object (fields : List (String × Json))

/-- The value of a field that occurs exactly once. -/
def Json.field? (name : String) (fields : List (String × Json)) : Option Json :=
  match fields.filter (·.1 == name) with
  | [(_, value)] => some value
  | _ => none

end BoostZones
