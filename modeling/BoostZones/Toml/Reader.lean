import BoostZones.Toml.Number
import BoostZones.Toml.Text

/-!
The statements of a TOML text: headers of tables, headers of elements, and keys with values. A
reader takes characters off the beginning of a text and gives what it read and the rest.
-/

namespace BoostZones.Toml

abbrev Reader (α : Type) := List Char → Option (α × List Char)

/-- How deep lists and tables in braces may be nested. -/
def maxDepth : Nat := 79

/-- How many parts a dotted key may have. -/
def maxParts : Nat := 79

/-- A text in quotes of a kind, on one line or as a block. -/
def readText (q : Quote) : Reader String := fun cs =>
  let body :=
    if [q.mark, q.mark, q.mark].isPrefixOf cs then block q (cs.drop 3)
    else lineBody q (cs.drop 1)
  body.map fun (content, rest) => (String.ofList content, rest)

-------------------------------------------------------------------------------
-- Keys
-------------------------------------------------------------------------------

/-- A character of a key without quotes. -/
def isBare (c : Char) : Bool :=
  c.isAlphanum || c == '-' || c == '_'

/-- One part of a key. A quoted part stays on its line. -/
def readPart : Reader String := fun cs =>
  match cs with
  | '"' :: rest => (lineBody .basic rest).map fun (name, rest) => (String.ofList name, rest)
  | '\'' :: rest => (lineBody .literal rest).map fun (name, rest) => (String.ofList name, rest)
  | _ =>
    let name := cs.takeWhile isBare
    if name.isEmpty then none else some (String.ofList name, cs.dropWhile isBare)

/-- A key of at most `parts` parts with points between them, and the spaces around it. -/
def readKey : Nat → Reader Key
  | 0 => fun _ => none
  | parts + 1 => fun cs => do
    let (name, rest) ← readPart (skipSpace cs)
    match skipSpace rest with
    | '.' :: rest =>
      let (key, rest) ← readKey parts rest
      return (⟨name :: key.parents, key.name⟩, rest)
    | rest => return (⟨[], name⟩, rest)

/-- A key, the sign behind it and its value. -/
def readPair (item : Reader Value) : Reader (Key × Value) := fun cs => do
  let (key, rest) ← readKey maxParts cs
  let rest ← expect? '=' rest
  let (v, rest) ← item (skipSpace rest)
  return ((key, v), rest)

-------------------------------------------------------------------------------
-- Values
-------------------------------------------------------------------------------

/-- The items of a list up to its closing bracket. There are fewer than `limit`. -/
def readItems (item : Reader Value) : Nat → Reader (List Value)
  | 0 => fun _ => none
  | limit + 1 => fun cs =>
    match skipBlank false cs with
    | ']' :: rest => some ([], rest)
    | cs => do
      let (v, rest) ← item cs
      match skipBlank false rest with
      | ']' :: rest => return ([v], rest)
      | ',' :: rest =>
        let (others, rest) ← readItems item limit rest
        return (v :: others, rest)
      | _ => none

/-- The pairs of a table up to its closing brace. There are at most `limit`. -/
def readPairs (item : Reader Value) : Nat → Reader (List (Key × Value))
  | 0 => fun _ => none
  | limit + 1 => fun cs => do
    let (pair, rest) ← readPair item cs
    match skipSpace rest with
    | '\x7d' :: rest => return ([pair], rest)
    | ',' :: rest =>
      let (others, rest) ← readPairs item limit rest
      return (pair :: others, rest)
    | _ => none

/-- The table of pairs in braces. -/
def tableOfPairs? (pairs : List (Key × Value)) : Option Value :=
  let put (entries : Entries) (pair : Key × Value) :=
    entries.assign pair.1.parents pair.1.name pair.2
  (pairs.foldlM put []).map (.table .braces)

/-- A table after its opening brace. -/
def readBraces (item : Reader Value) (limit : Nat) : Reader Value := fun cs =>
  match skipSpace cs with
  | '\x7d' :: rest => some (.table .braces [], rest)
  | _ => do
    let (pairs, rest) ← readPairs item limit cs
    return (← tableOfPairs? pairs, rest)

/-- A truth value. -/
def readBoolean : Reader Value := fun cs =>
  match "true".toList.isPrefixOf? cs, "false".toList.isPrefixOf? cs with
  | some rest, _ => some (.boolean true, rest)
  | none, some rest => some (.boolean false, rest)
  | none, none => none

/-- A value that holds no others. -/
def readScalar : Reader Value := fun cs =>
  match cs with
  | '"' :: _ => (readText .basic cs).map fun (content, rest) => (.text content, rest)
  | '\'' :: _ => (readText .literal cs).map fun (content, rest) => (.text content, rest)
  | _ => (readBoolean cs).or (number? cs)

/-- A value with lists and tables nested at most `depth` deep, each of fewer parts than
`limit`. -/
def readValue (limit : Nat) : Nat → Reader Value
  | 0 => readScalar
  | depth + 1 => fun cs =>
    match cs with
    | '[' :: rest =>
      (readItems (readValue limit depth) limit rest).map fun (items, rest) =>
        (.list items, rest)
    | '\x7b' :: rest => readBraces (readValue limit depth) limit rest
    | _ => readScalar cs

-------------------------------------------------------------------------------
-- Statements
-------------------------------------------------------------------------------

inductive Statement where
  /-- The header of a table. -/
  | table (key : Key)
  /-- The header of one more table under a name. -/
  | element (key : Key)
  | pair (key : Key) (v : Value)

/-- A header between the given brackets. -/
def readHeader (opening closing : List Char) (make : Key → Statement) : Reader Statement :=
  fun cs => do
    let rest ← opening.isPrefixOf? cs
    let (key, rest) ← readKey maxParts rest
    let rest ← closing.isPrefixOf? rest
    return (make key, rest)

/-- A statement and the rest of its line. -/
def readStatement (limit : Nat) : Reader Statement := fun cs => do
  let (statement, rest) ←
    if "[[".toList.isPrefixOf cs then readHeader "[[".toList "]]".toList .element cs
    else if "[".toList.isPrefixOf cs then readHeader "[".toList "]".toList .table cs
    else (readPair (readValue limit maxDepth) cs).map fun ((key, v), rest) => (.pair key v, rest)
  return (statement, ← lineEnd? rest)

/-- The statements of a text that has fewer than `count`. -/
def readStatements (limit : Nat) : Nat → List Char → Option (List Statement)
  | 0, _ => none
  | count + 1, cs =>
    match skipBlank false cs with
    | [] => some []
    | cs => do
      let (statement, rest) ← readStatement limit cs
      let others ← readStatements limit count rest
      return statement :: others

end BoostZones.Toml
