import BoostZones.Json
import BoostZones.Objective

/-!
Objectives as JSON. An objective is an object with its name and, for a classification, the class
count; fields of other names are passed over. A list of the name and the class count means the
same.
-/

namespace BoostZones.Objective

/-- The field with the objective's name. -/
def nameField : String := "name"

/-- The field with the class count. -/
def classesField : String := "classes"

/-- The classification with a class count. -/
def ofClasses? : Json → Option Objective
  | .count classes => some (.logLoss classes)
  | _ => none

/-- The objective of an object's fields. -/
def ofFields? (fields : List (String × Json)) : Option Objective :=
  match Json.field? nameField fields with
  | some (.text name) =>
    if name = rmse.name then some rmse
    else if name = poissonDeviance.name then some poissonDeviance
    else if name = binary.name then (Json.field? classesField fields).bind ofClasses?
    else none
  | _ => none

/-- The objective of a list's items. -/
def ofItems? : List Json → Option Objective
  | [.text name] =>
    if name = rmse.name then some rmse
    else if name = poissonDeviance.name then some poissonDeviance
    else none
  | [.text name, classes] => if name = binary.name then ofClasses? classes else none
  | _ => none

/-- The objective that a value describes. The class count may be any. -/
def ofJson? : Json → Option Objective
  | .object fields => ofFields? fields
  | .list items => ofItems? items
  | _ => none

def toJson (o : Objective) : Json :=
  .object <|
    (nameField, .text o.name) ::
      match o with
      | .logLoss classes => [(classesField, .count classes)]
      | _ => []

/-- Classifications of all class counts have one name, which is nobody else's. -/
theorem ofJson?_toJson (o : Objective) : ofJson? o.toJson = some o := by
  cases o with
  | logLoss classes =>
    simp [toJson, ofJson?, ofFields?, Json.field?, nameField, classesField, name, binary,
      ofClasses?]
  | rmse => simp [toJson, ofJson?, ofFields?, Json.field?, nameField, name]
  | poissonDeviance => simp [toJson, ofJson?, ofFields?, Json.field?, nameField, name]

end BoostZones.Objective
