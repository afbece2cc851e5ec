/-!
TOML values and tables. A table remembers how it came to be, because that decides who may still
add to it: dotted keys may go on with a table that dotted keys made, a header may complete a
table that other headers only passed through, and a table in braces is closed for good.
-/

namespace BoostZones.Toml

/-- How a table came to be. -/
inductive Origin where
  /-- A header names it. -/
  | header
  /-- Headers have passed through it on their way to another table. -/
  | passing
  /-- Dotted keys have made it. -/
  | dotted
  | braces
deriving DecidableEq

inductive Value where
  | text (content : String)
  | integer (n : Int)
  | boolean (b : Bool)
  /-- A number that is not written as an integer. -/
  | fraction (x : Float)
  /-- A date, a time of day or both. -/
  | moment
  | list (items : List Value)
  | table (origin : Origin) (entries : List (String × Value))
  /-- Tables under one name, each with a header of its own. -/
  | tables (elements : List (List (String × Value)))

/-- The entries of a table. No name occurs twice. -/
abbrev Entries := List (String × Value)

/-- A key: the tables it passes through, and the name in the last of them. -/
structure Key where
  parents : List String
  name : String

namespace Entries

/-- The entries with the value of a name replaced, or added at the end. -/
def set (name : String) (v : Value) : Entries → Entries
  | [] => [(name, v)]
  | (other, old) :: rest =>
    if other = name then (name, v) :: rest else (other, old) :: set name v rest

/-- Changes the last element of a list, if there is one and the change is possible. -/
def changeLast (change : Entries → Option Entries) : List Entries → Option (List Entries)
  | [] => none
  | [last] => (change last).map ([·])
  | first :: rest => (changeLast change rest).map (first :: ·)

/-- Gives a value to a name that is reached through `parents` by dots. A name that has a value
keeps it, and the last table on the way has to be one that dotted keys have made. -/
def assign (entries : Entries) (parents : List String) (name : String) (v : Value)
    : Option Entries :=
  match parents with
  | [] => if (entries.lookup name).isSome then none else some (entries ++ [(name, v)])
  | parent :: rest =>
    match entries.lookup parent with
    | none => (assign [] rest name v).map fun inner =>
      set parent (.table .dotted inner) entries
    | some (.table origin inner) =>
      if origin = .dotted ∨ origin = .passing ∧ rest ≠ [] then
        (assign inner rest name v).map fun inner => set parent (.table origin inner) entries
      else none
    | some (.tables elements) =>
      if rest = [] then none
      else
        (changeLast (fun inner => assign inner rest name v) elements).map fun elements =>
          set parent (.tables elements) entries
    | some _ => none
termination_by structural parents

/-- Changes what stands under a name that is reached through `parents` by a header, which makes
the tables that are missing on the way. -/
def changeAt (change : Option Value → Option Value) (entries : Entries)
    (parents : List String) (name : String)
    : Option Entries :=
  match parents with
  | [] => (change (entries.lookup name)).map fun v => set name v entries
  | parent :: rest =>
    match entries.lookup parent with
    | none => (changeAt change [] rest name).map fun inner =>
      set parent (.table .passing inner) entries
    | some (.table origin inner) =>
      if origin = .braces then none
      else
        (changeAt change inner rest name).map fun inner =>
          set parent (.table origin inner) entries
    | some (.tables elements) =>
      (changeLast (fun inner => changeAt change inner rest name) elements).map fun elements =>
        set parent (.tables elements) entries
    | some _ => none
termination_by structural parents

end Entries

-------------------------------------------------------------------------------
-- Fields
-------------------------------------------------------------------------------

/-- The values of the named fields of a value: of a table that has no other fields, or of a list
that gives the values in the order of the names. What a list holds beyond them is passed over. -/
def Value.fields? (names : List String) : Value → Option (String → Option Value)
  | .table _ entries =>
    if entries.all fun (name, _) => names.contains name then some (entries.lookup ·) else none
  | .list items => some ((names.zip items).lookup ·)
  | _ => none

end BoostZones.Toml
