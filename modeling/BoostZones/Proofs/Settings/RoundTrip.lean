import BoostZones.Proofs.Toml.Integers
import BoostZones.Proofs.Toml.Lines
import BoostZones.Proofs.Toml.Quoting
import BoostZones.Settings.File

/-! Settings that are read back from their text. Each line of the text is one statement, the
statements make the two tables, and the tables have all the fields; so nothing is left to the
defaults, and nothing is asked of the objective's name.
-/

namespace BoostZones.Settings

open Toml

-------------------------------------------------------------------------------
-- Values
-------------------------------------------------------------------------------

theorem closes_quoted (text : String) : Closes (quoted text).toList (.text text) where
  begins := by
    obtain ⟨more, begins⟩ := quoted_begins text
    refine ⟨_, more, begins, ?_⟩
    cases (Form.choose text.toList).quote <;> decide
  reads rest := by
    have ends (q : Quote) : ('\n' :: rest).head? ≠ some q.mark := by
      rw [List.head?_cons]
      cases q <;> decide
    exact readScalar_quoted text ends

theorem closes_writeBoolean (b : Bool) : Closes (writeBoolean b).toList (.boolean b) := by
  cases b with
  | false => exact ⟨⟨'f', _, rfl, by decide⟩, fun rest => rfl⟩
  | true => exact ⟨⟨'t', _, rfl, by decide⟩, fun rest => rfl⟩

theorem closes_writeCount {n : UInt64} (fits : n.toNat < integerLimit)
    : Closes (Text.writeCount n).toList (.integer n.toNat) := by
  have digits : (Text.writeCount n).toList = Nat.toDigits 10 n.toNat := Nat.toList_repr
  rw [digits]
  refine ⟨?_, fun rest => readScalar_line rest fits⟩
  obtain ⟨first, more, digits, digit⟩ := toDigits_eq_cons n.toNat
  have space : first ≠ ' ' := ne_of_isDigit digit rfl
  have tab : first ≠ '\t' := ne_of_isDigit digit rfl
  exact ⟨first, more, digits, by simp [isSpace, space, tab], ne_of_isDigit digit rfl,
    ne_of_isDigit digit rfl⟩

-------------------------------------------------------------------------------
-- Lines
-------------------------------------------------------------------------------

/-- What the lines of the settings' text say. -/
def said (s : Settings) : List Statement := [
  .table ⟨[], zoneTable⟩,
  .pair ⟨[], selectionField⟩ (.text s.zone.selection.name),
  .pair ⟨[], fallbackField⟩ (.boolean s.zone.fallback),
  .table ⟨[], objectiveTable⟩,
  .pair ⟨[], nameField⟩ (.text s.objective.name),
  .pair ⟨[], classesField⟩ (.integer s.objective.classes.toNat)]

theorem says_tableLine {name : String} (isName : IsName name.toList) (limit : Nat)
    : Says limit ("[" ++ name ++ "]").toList (.table ⟨[], name⟩) := by
  have line : ("[" ++ name ++ "]").toList = '[' :: name.toList ++ [']'] := by
    simp [String.toList_append]
  have spoken := says_header limit isName
  rw [String.ofList_toList] at spoken
  rw [line]
  exact spoken

theorem says_fieldLine {name written : String} (isName : IsName name.toList) {v : Value}
    (closes : Closes written.toList v) (limit : Nat)
    : Says limit (name ++ " = " ++ written).toList (.pair ⟨[], name⟩ v) := by
  have line
      : (name ++ " = " ++ written).toList = name.toList ++ ' ' :: '=' :: ' ' :: written.toList := by
    simp [String.toList_append]
  have spoken := says_pair limit isName closes
  rw [String.ofList_toList] at spoken
  rw [line]
  exact spoken

theorem sayAll_lines {s : Settings} (fits : s.objective.classes.toNat < integerLimit)
    (limit : Nat)
    : SayAll limit (s.lines.map String.toList) s.said :=
  .cons (says_tableLine ⟨by decide, rfl⟩ limit)
  <| .cons (says_fieldLine ⟨by decide, rfl⟩ (closes_quoted _) limit)
  <| .cons (says_fieldLine ⟨by decide, rfl⟩ (closes_writeBoolean _) limit)
  <| .empty
  <| .cons (says_tableLine ⟨by decide, rfl⟩ limit)
  <| .cons (says_fieldLine ⟨by decide, rfl⟩ (closes_quoted _) limit)
  <| .cons (says_fieldLine ⟨by decide, rfl⟩ (closes_writeCount fits) limit) .nil

-------------------------------------------------------------------------------
-- Tables
-------------------------------------------------------------------------------

/-- What stands in the zone's table. -/
def zoneEntries (z : ZoneSettings) : Entries :=
  [(selectionField, .text z.selection.name), (fallbackField, .boolean z.fallback)]

/-- What stands in the objective's table. -/
def objectiveEntries (o : ObjectiveSettings) : Entries :=
  [(nameField, .text o.name), (classesField, .integer o.classes.toNat)]

/-- The tables that the statements make. -/
def tables (s : Settings) : Entries := [
  (zoneTable, .table .header (zoneEntries s.zone)),
  (objectiveTable, .table .header (objectiveEntries s.objective))]

theorem foldlM_said (s : Settings)
    : s.said.foldlM Draft.add ⟨[], none⟩ = some ⟨s.tables, some ⟨[], objectiveTable⟩⟩ :=
  rfl

theorem selectionOf?_name (selection : Selection)
    : selectionOf? (.text selection.name) = some selection := by
  cases selection with
  | auto => rfl
  | fixed zone => cases zone <;> rfl

theorem count?_toNat (n : UInt64) : Value.count? (.integer n.toNat) = some n := by
  simp [Value.count?]

theorem zoneOf?_zoneEntries (z : ZoneSettings)
    : zoneOf? (.table .header (zoneEntries z)) = some z := by
  have field
      : Value.fields? [selectionField, fallbackField] (.table .header (zoneEntries z))
        = some ((zoneEntries z).lookup ·) := rfl
  have selection
      : (zoneEntries z).lookup selectionField = some (.text z.selection.name) := rfl
  have fallback : (zoneEntries z).lookup fallbackField = some (.boolean z.fallback) := rfl
  simp only [zoneOf?, field, selection, fallback, fieldOr, selectionOf?_name, Value.boolean?,
    Option.bind_eq_bind, Option.bind_some]
  rfl

theorem objectiveOf?_objectiveEntries (o : ObjectiveSettings)
    : objectiveOf? (.table .header (objectiveEntries o)) = some o := by
  have field
      : Value.fields? [nameField, classesField] (.table .header (objectiveEntries o))
        = some ((objectiveEntries o).lookup ·) := rfl
  have name : (objectiveEntries o).lookup nameField = some (.text o.name) := rfl
  have classes
      : (objectiveEntries o).lookup classesField = some (.integer o.classes.toNat) := rfl
  simp only [objectiveOf?, field, name, classes, fieldOr, Value.text?, count?_toNat,
    Option.bind_eq_bind, Option.bind_some]
  rfl

theorem ofValue?_tables (s : Settings) : ofValue? (.table .header s.tables) = some s := by
  have field
      : Value.fields? [zoneTable, objectiveTable] (.table .header s.tables)
        = some (s.tables.lookup ·) := rfl
  have zone : s.tables.lookup zoneTable = some (.table .header (zoneEntries s.zone)) := rfl
  have objective
      : s.tables.lookup objectiveTable
        = some (.table .header (objectiveEntries s.objective)) := rfl
  simp only [ofValue?, field, zone, objective, fieldOr, zoneOf?_zoneEntries,
    objectiveOf?_objectiveEntries, Option.bind_eq_bind, Option.bind_some]
  rfl

-------------------------------------------------------------------------------
-- Texts
-------------------------------------------------------------------------------

theorem toText_eq_ok_iff {s : Settings} {text : String}
    : s.toText = .ok text
      ↔ s.objective.classes.toNat ≤ maxWritable
        ∧ String.join (s.lines.map (· ++ "\n")) = text := by
  unfold toText
  split
  · next beyond => simp [Nat.not_le.2 beyond]
  · next fits => simp [Nat.not_lt.1 fits]

/-- The lines of settings are read back, if their class count can be read at all. -/
theorem parse_lines {s : Settings} (fits : s.objective.classes.toNat < integerLimit)
    : parse (String.join (s.lines.map (· ++ "\n"))) = .ok s := by
  have unmarked : expect? byteOrderMark (endedLines (s.lines.map String.toList)) = none := rfl
  have statements : statements? (String.join (s.lines.map (· ++ "\n"))) = some s.said :=
    statements?_join_lines unmarked (sayAll_lines fits)
  have table
      : parse? (String.join (s.lines.map (· ++ "\n"))) = some (.table .header s.tables) := by
    simp only [parse?, statements, Option.bind_eq_bind, Option.bind_some, foldlM_said]
    rfl
  rw [parse, table, Option.bind_some, ofValue?_tables]

/-- Settings have a text exactly when their class count fits a signed word of 64 bits, and their
text is read back as the same settings, whatever the objective is called.
-/
theorem toText_reads_back (s : Settings)
    : ((∃ text, s.toText = .ok text) ↔ s.objective.classes.toNat ≤ Nat.pow 2 63 - 1)
      ∧ ∀ text, s.toText = .ok text → parse text = .ok s := by
  refine ⟨?_, fun text written => ?_⟩
  · have greatest : maxWritable = Nat.pow 2 63 - 1 := rfl
    simp only [toText_eq_ok_iff, exists_and_left, exists_eq', and_true, greatest]
  · obtain ⟨fits, rfl⟩ := toText_eq_ok_iff.1 written
    have positive : 0 < integerLimit := by decide
    exact parse_lines (Nat.lt_of_le_of_lt fits (Nat.sub_one_lt_of_lt positive))

end BoostZones.Settings
