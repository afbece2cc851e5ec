import BoostZones.Toml.Document

/-! Texts whose lines are statements. A header or a pair with a bare name and a value without parts
takes one line, whatever lines follow it; a text of such lines and empty ones is read line by line.
-/

namespace BoostZones.Toml

-------------------------------------------------------------------------------
-- Names
-------------------------------------------------------------------------------

/-- A name that needs no quotes. -/
structure IsName (name : List Char) : Prop where
  filled : name ≠ []
  bare : name.all isBare = true

theorem ne_of_isBare {c d : Char} (bare : isBare c = true) (other : isBare d = false)
    : c ≠ d := by
  rintro rfl
  rw [bare] at other
  cases other

theorem isSpace_of_isBare {c : Char} (bare : isBare c = true) : isSpace c = false := by
  have space : c ≠ ' ' := ne_of_isBare bare rfl
  have tab : c ≠ '\t' := ne_of_isBare bare rfl
  simp [isSpace, space, tab]

theorem skipSpace_of_not_isSpace {c : Char} (word : isSpace c = false) (rest : List Char)
    : skipSpace (c :: rest) = c :: rest := by
  rw [skipSpace, List.dropWhile_cons, word]
  rfl

namespace IsName
variable {name : List Char} (isName : IsName name)
include isName

theorem isBare_of_mem : ∀ c ∈ name, isBare c = true :=
  List.all_eq_true.1 isName.bare

theorem begins (rest : List Char)
    : ∃ first more, name ++ rest = first :: more ∧ isBare first = true := by
  obtain ⟨first, more, rfl⟩ := List.exists_cons_of_ne_nil isName.filled
  exact ⟨first, _, rfl, isName.isBare_of_mem first List.mem_cons_self⟩

theorem readPart_eq {c : Char} (ends : isBare c = false) (rest : List Char)
    : readPart (name ++ c :: rest) = some (String.ofList name, c :: rest) := by
  have stops : ¬ isBare c = true := by simp [ends]
  have taken : (name ++ c :: rest).takeWhile isBare = name := by
    rw [List.takeWhile_append_of_pos isName.isBare_of_mem, List.takeWhile_cons_of_neg stops,
      List.append_nil]
  have dropped : (name ++ c :: rest).dropWhile isBare = c :: rest := by
    rw [List.dropWhile_append_of_pos isName.isBare_of_mem, List.dropWhile_cons_of_neg stops]
  obtain ⟨first, more, same, bare⟩ := isName.begins (c :: rest)
  unfold readPart
  split
  · next quoted =>
    rw [same] at quoted
    cases quoted
    cases bare
  · next quoted =>
    rw [same] at quoted
    cases quoted
    cases bare
  · rw [taken, dropped, if_neg (by simpa using isName.filled)]

/-- A name that no point follows is a whole key. -/
theorem readKey_eq {c next : Char} (ends : isBare c = false) (single : next ≠ '.')
    {rest after : List Char} (skipped : skipSpace (c :: rest) = next :: after)
    : readKey maxParts (name ++ c :: rest)
      = some (⟨[], String.ofList name⟩, next :: after) := by
  have here : skipSpace (name ++ c :: rest) = name ++ c :: rest := by
    obtain ⟨first, more, same, bare⟩ := isName.begins (c :: rest)
    rw [same, skipSpace_of_not_isSpace (isSpace_of_isBare bare)]
  unfold maxParts readKey
  simp only [here, isName.readPart_eq ends, skipped, Option.bind_eq_bind, Option.bind_some]
  split
  · next point =>
    cases point
    exact absurd rfl single
  · rfl

end IsName

-------------------------------------------------------------------------------
-- Lines
-------------------------------------------------------------------------------

/-- A line is read as a statement, whatever follows its end. -/
structure Says (limit : Nat) (line : List Char) (s : Statement) : Prop where
  begins (rest : List Char) : skipBlank false (line ++ '\n' :: rest) = line ++ '\n' :: rest
  reads (rest : List Char) : readStatement limit (line ++ '\n' :: rest) = some (s, rest)

/-- A value without parts is read at the end of a line. -/
structure Closes (written : List Char) (v : Value) : Prop where
  begins : ∃ first more,
    written = first :: more ∧ isSpace first = false ∧ first ≠ '[' ∧ first ≠ '\x7b'
  reads (rest : List Char) : readScalar (written ++ '\n' :: rest) = some (v, '\n' :: rest)

theorem skipBlank_of_word {c : Char} (word : isSpace c = false) (feed : c ≠ '\n')
    (carriage : c ≠ '\r') (comment : c ≠ '#') (rest : List Char)
    : skipBlank false (c :: rest) = c :: rest := by
  rw [skipBlank.eq_def]
  split
  · next same => cases same; exact absurd rfl carriage
  · next same =>
    cases same
    simp [word, feed, comment]
  · next absent => cases absent

theorem lineEnd?_newline (rest : List Char) : lineEnd? ('\n' :: rest) = some rest := rfl

/-- A value without parts is what is read where any value may stand. -/
theorem Closes.readValue_eq {written : List Char} {v : Value} (closes : Closes written v)
    (limit : Nat) (rest : List Char)
    : readValue limit maxDepth (skipSpace (written ++ '\n' :: rest)) = some (v, '\n' :: rest) := by
  obtain ⟨first, more, same, word, list, braces⟩ := closes.begins
  rw [← closes.reads rest, same, List.cons_append, skipSpace_of_not_isSpace word, maxDepth]
  unfold readValue
  split
  · next opened =>
    cases opened
    exact absurd rfl list
  · next opened =>
    cases opened
    exact absurd rfl braces
  · rfl

section Lines
variable (limit : Nat) {name : List Char} (isName : IsName name)
include isName

theorem says_header
    : Says limit ('[' :: name ++ [']']) (.table ⟨[], String.ofList name⟩) where
  begins rest := skipBlank_of_word rfl (by decide) (by decide) (by decide) _
  reads rest := by
    have single : "[[".toList.isPrefixOf ('[' :: (name ++ ']' :: '\n' :: rest)) = false := by
      obtain ⟨first, more, same, bare⟩ := isName.begins (']' :: '\n' :: rest)
      rw [same]
      simp [List.isPrefixOf, (ne_of_isBare bare (d := '[') rfl).symm]
    have opened : "[".toList.isPrefixOf ('[' :: (name ++ ']' :: '\n' :: rest)) = true := rfl
    have key
        : readKey maxParts (name ++ ']' :: '\n' :: rest)
          = some (⟨[], String.ofList name⟩, ']' :: '\n' :: rest) :=
      isName.readKey_eq rfl (by decide) rfl
    have header
        : readHeader "[".toList "]".toList .table ('[' :: (name ++ ']' :: '\n' :: rest))
          = some (.table ⟨[], String.ofList name⟩, '\n' :: rest) := by
      have opening (cs : List Char) : "[".toList.isPrefixOf? ('[' :: cs) = some cs := rfl
      have closing (cs : List Char) : "]".toList.isPrefixOf? (']' :: cs) = some cs := rfl
      simp only [readHeader, opening, key, closing, Option.bind_eq_bind, Option.bind_some]
      rfl
    rw [List.cons_append, List.cons_append, List.append_assoc, List.singleton_append,
      readStatement, single, opened, header]
    rfl

theorem says_pair {written : List Char} {v : Value} (closes : Closes written v)
    : Says limit (name ++ ' ' :: '=' :: ' ' :: written) (.pair ⟨[], String.ofList name⟩ v) where
  begins rest := by
    rw [List.append_assoc]
    obtain ⟨first, more, same, bare⟩ :=
      isName.begins (' ' :: '=' :: ' ' :: written ++ '\n' :: rest)
    rw [same]
    exact skipBlank_of_word (isSpace_of_isBare bare) (ne_of_isBare bare rfl)
      (ne_of_isBare bare rfl) (ne_of_isBare bare rfl) more
  reads rest := by
    rw [List.append_assoc, List.cons_append, List.cons_append, List.cons_append]
    generalize follows : written ++ '\n' :: rest = value
    have key
        : readKey maxParts (name ++ ' ' :: '=' :: ' ' :: value)
          = some (⟨[], String.ofList name⟩, '=' :: ' ' :: value) :=
      isName.readKey_eq rfl (by decide) rfl
    have item : readValue limit maxDepth (skipSpace (' ' :: value)) = some (v, '\n' :: rest) := by
      rw [← closes.readValue_eq limit rest, follows]
      rfl
    have pair
        : readPair (readValue limit maxDepth) (name ++ ' ' :: '=' :: ' ' :: value)
          = some ((⟨[], String.ofList name⟩, v), '\n' :: rest) := by
      simp [readPair, key, expect?, item]
    obtain ⟨first, more, same, bare⟩ := isName.begins (' ' :: '=' :: ' ' :: value)
    have other : '[' ≠ first := (ne_of_isBare bare rfl).symm
    rw [same] at pair ⊢
    simp [readStatement, List.isPrefixOf, other, pair, lineEnd?_newline]

end Lines

-------------------------------------------------------------------------------
-- Texts
-------------------------------------------------------------------------------

/-- The characters of lines that are all ended. -/
def endedLines (lines : List (List Char)) : List Char :=
  lines.flatMap (· ++ ['\n'])

/-- Lines say statements one by one; there may be empty lines between them. -/
inductive SayAll (limit : Nat) : (lines : List (List Char)) → (said : List Statement) → Prop
  | nil : SayAll limit [] []
  | empty {lines : List (List Char)} {said : List Statement} (later : SayAll limit lines said)
    : SayAll limit ([] :: lines) said
  | cons {line : List Char} {lines : List (List Char)} {s : Statement} {said : List Statement}
    (here : Says limit line s) (later : SayAll limit lines said)
    : SayAll limit (line :: lines) (s :: said)

theorem readStatements_newline (limit count : Nat) (rest : List Char)
    : readStatements limit count ('\n' :: rest) = readStatements limit count rest := by
  cases count with
  | zero => rfl
  | succ count =>
      have skipped : skipBlank false ('\n' :: rest) = skipBlank false rest := rfl
      rw [readStatements, readStatements, skipped]

theorem Says.readStatements_eq {limit : Nat} {line : List Char} {s : Statement}
    (spoken : Says limit line s) (count : Nat) (rest : List Char)
    : readStatements limit (count + 1) (line ++ '\n' :: rest)
      = (readStatements limit count rest).map (s :: ·) := by
  rw [readStatements, spoken.begins]
  split
  · next absent => simp at absent
  · rw [spoken.reads, Option.map_eq_bind]
    rfl

/-- Lines are read as what they say, by induction on them. -/
theorem SayAll.readStatements_eq {limit : Nat} {lines : List (List Char)} {said : List Statement}
    (say : SayAll limit lines said) {count : Nat} (enough : lines.length < count)
    : readStatements limit count (endedLines lines) = some said := by
  induction say generalizing count with
  | nil =>
      obtain ⟨count, rfl⟩ := Nat.exists_eq_add_one.2 enough
      rfl
  | @empty lines said later ih =>
      have text : endedLines ([] :: lines) = '\n' :: endedLines lines := rfl
      rw [text, readStatements_newline, ih (Nat.lt_of_succ_lt enough)]
  | @cons line lines s said here later ih =>
      obtain ⟨count, rfl⟩ := Nat.exists_eq_add_one.2 (Nat.zero_lt_of_lt enough)
      have text : endedLines (line :: lines) = line ++ '\n' :: endedLines lines := by
        simp [endedLines]
      rw [text, here.readStatements_eq, ih (Nat.lt_of_succ_lt_succ enough)]
      rfl

theorem length_le_endedLines (lines : List (List Char))
    : lines.length ≤ (endedLines lines).length := by
  induction lines with
  | nil => exact Nat.le_refl _
  | cons line lines ih =>
      have text : endedLines (line :: lines) = line ++ ['\n'] ++ endedLines lines := by
        simp [endedLines]
      rw [text]
      simp only [List.length_append, List.length_cons]
      omega

theorem toList_join_lines (lines : List String)
    : (String.join (lines.map (· ++ "\n"))).toList = endedLines (lines.map String.toList) := by
  rw [String.toList_join, endedLines, List.flatMap_map, List.flatMap_map]
  simp [String.toList_append]

/-- A text of lines is read as what they say, if they do not begin with the mark that is skipped at
the very beginning.
-/
theorem statements?_join_lines {lines : List String} {said : List Statement}
    (unmarked : expect? byteOrderMark (endedLines (lines.map String.toList)) = none)
    (say : ∀ limit, SayAll limit (lines.map String.toList) said)
    : statements? (String.join (lines.map (· ++ "\n"))) = some said := by
  have enough := length_le_endedLines (lines.map String.toList)
  simp only [statements?, toList_join_lines, unmarked, Option.getD_none]
  exact (say _).readStatements_eq (Nat.lt_succ_of_le enough)

end BoostZones.Toml
