import BoostZones.Toml.Reader

/-!
A TOML text as one table. Statements are carried out one after the other: a header opens a
table, and the pairs that follow it go there. A table is opened by a header once.
-/

namespace BoostZones.Toml

/-- The table so far, and the header under which pairs go. -/
structure Draft where
  root : Entries
  header : Option Key

namespace Draft

/-- Opens a table that nothing but headers further in has touched. -/
def openTable : Option Value → Option Value
  | none => some (.table .header [])
  | some (.table .passing entries) => some (.table .header entries)
  | some _ => none

/-- Opens one more of the tables under a name. -/
def openElement : Option Value → Option Value
  | none => some (.tables [[]])
  | some (.tables elements) => some (.tables (elements ++ [[]]))
  | some _ => none

/-- Gives a value to a key in the open table. -/
def assignIn (key : Key) (v : Value) : Option Value → Option Value
  | some (.table .header entries) =>
    (Entries.assign entries key.parents key.name v).map (.table .header)
  | some (.tables elements) =>
    (Entries.changeLast (·.assign key.parents key.name v) elements).map .tables
  | _ => none

/-- The draft after one more statement. -/
def add (d : Draft) : Statement → Option Draft
  | .table key =>
    (d.root.changeAt openTable key.parents key.name).map (⟨·, some key⟩)
  | .element key =>
    (d.root.changeAt openElement key.parents key.name).map (⟨·, some key⟩)
  | .pair key v =>
    match d.header with
    | none => (d.root.assign key.parents key.name v).map (⟨·, none⟩)
    | some header =>
      (d.root.changeAt (assignIn key v) header.parents header.name).map (⟨·, some header⟩)

end Draft

/-- A mark that may stand at the very beginning of a text. -/
def byteOrderMark : Char := '\ufeff'

/-- The statements of a text. Neither it nor anything in it has more parts than it has
characters. -/
def statements? (text : String) : Option (List Statement) :=
  let cs := (expect? byteOrderMark text.toList).getD text.toList
  let limit := cs.length + 1
  readStatements limit limit cs

/-- The table that a text describes. -/
def parse? (text : String) : Option Value := do
  let statements ← statements? text
  let draft ← statements.foldlM Draft.add ⟨[], none⟩
  return .table .header draft.root

end BoostZones.Toml
