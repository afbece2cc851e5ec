import BoostZones.Toml.Quoting
import BoostZones.Toml.Reader

/-! Texts that are read back from their quotes. What may stand between the marks of a form is told
by a relation of its own: whatever stands for a text there is read as the text, and what is written
in the form that is chosen for a text stands for it. A block may hold marks, but never three in
a row, and those right before its end are told from the end by what follows them.
-/

namespace BoostZones.Toml

/-- What stands for a text between the marks of a form. In a block up to two marks may follow each
other; `run` counts those that stand right before.
-/
inductive Form.Stands (f : Form) : (run : Nat) → (cs written : List Char) → Prop
  | done {run : Nat} : f.Stands run [] []
  | mark {run : Nat} {cs written : List Char} (block : f.isBlock = true) (few : run < 2)
    (later : f.Stands (run + 1) cs written)
    : f.Stands run (f.quote.mark :: cs) (f.quote.mark :: written)
  | plain {run : Nat} {c : Char} {cs written : List Char} (other : c ≠ f.quote.mark)
    (raw : ¬ (c = '\\' ∧ f.quote.escapes = true))
    (allowed : isControl c = false ∨ f.isBlock = true ∧ c = '\n') (later : f.Stands 0 cs written)
    : f.Stands run (c :: cs) (c :: written)
  | escaped {run : Nat} {c : Char} {sign cs written : List Char}
    (escapes : f.quote.escapes = true) (means : ∀ rest, escape? (sign ++ rest) = some (c, rest))
    (later : f.Stands 0 cs written)
    : f.Stands run (c :: cs) ('\\' :: sign ++ written)

theorem Quote.mark_ne_backslash (q : Quote) : '\\' ≠ q.mark := by
  cases q <;> decide

theorem Quote.isControl_mark (q : Quote) : isControl q.mark = false := by
  cases q <;> decide

-------------------------------------------------------------------------------
-- Reading on one line
-------------------------------------------------------------------------------

theorem lineBody_plain {q : Quote} {c : Char} (other : c ≠ q.mark)
    (raw : ¬ (c = '\\' ∧ q.escapes = true)) (visible : isControl c = false) (rest : List Char)
    : lineBody q (c :: rest) = (lineBody q rest).push c := by
  rw [lineBody, if_neg other, if_neg raw, visible]
  rfl

theorem lineBody_escape {q : Quote} (escapes : q.escapes = true) {c : Char}
    {rest after : List Char} (means : escape? rest = some (c, after))
    : lineBody q ('\\' :: rest) = (lineBody q after).push c := by
  rw [lineBody, if_neg q.mark_ne_backslash, if_pos ⟨rfl, escapes⟩]
  split
  · next escaped left found =>
    rw [means] at found
    cases found
    rfl
  · next absent =>
    rw [means] at absent
    cases absent

/-- What stands for a text on one line is read as the text, by induction on what stands there. -/
theorem Form.Stands.lineBody {f : Form} {run : Nat} {cs written : List Char}
    (stands : f.Stands run cs written) (single : f.isBlock = false) (rest : List Char)
    : lineBody f.quote (written ++ f.quote.mark :: rest) = some (cs, rest) := by
  induction stands with
  | done => rw [List.nil_append, Toml.lineBody, if_pos rfl]
  | mark block few later ih => rw [single] at block; cases block
  | plain other raw allowed later ih =>
      have visible := allowed.resolve_right fun broken => by
        rw [single] at broken
        cases broken.1
      rw [List.cons_append, lineBody_plain other raw visible, ih]
      rfl
  | escaped escapes means later ih =>
      rw [List.cons_append, List.cons_append, List.append_assoc,
        lineBody_escape escapes (means _), ih]
      rfl

-------------------------------------------------------------------------------
-- Reading a block
-------------------------------------------------------------------------------

/-- Up to two marks before the end of a block belong to the text. -/
theorem blockEnd?_marks {mark : Char} {few : Nat} (le : few ≤ 2) {rest : List Char}
    (ends : rest.head? ≠ some mark)
    : blockEnd? mark (List.replicate few mark ++ mark :: mark :: mark :: rest)
      = some (List.replicate few mark, rest) := by
  have stops : rest.takeWhile (· == mark) = [] := by
    cases rest with
    | nil => rfl
    | cons c rest =>
        have other : c ≠ mark := fun same => ends (congrArg some same)
        simp [other]
  obtain rfl | rfl | rfl : few = 0 ∨ few = 1 ∨ few = 2 := by omega
  · simp [blockEnd?, stops]
  · simp [blockEnd?, stops]
  · simp [blockEnd?, stops]

/-- A block goes on when something else follows fewer than three marks. -/
theorem blockEnd?_other {mark c : Char} (other : c ≠ mark) {few : Nat} (le : few ≤ 2)
    (rest : List Char)
    : blockEnd? mark (List.replicate few mark ++ c :: rest) = none := by
  have apart : (mark == c) = false := beq_eq_false_iff_ne.2 (Ne.symm other)
  obtain rfl | rfl | rfl : few = 0 ∨ few = 1 ∨ few = 2 := by omega
  · simp [blockEnd?, List.isPrefixOf, apart]
  · simp [blockEnd?, List.isPrefixOf, apart]
  · simp [blockEnd?, List.isPrefixOf, apart]

theorem blockBody_plain {q : Quote} {c : Char} {rest : List Char}
    (goesOn : blockEnd? q.mark (c :: rest) = none) (raw : ¬ (c = '\\' ∧ q.escapes = true))
    (allowed : isControl c = false ∨ c = '\n')
    : blockBody q (c :: rest) = (blockBody q rest).push c := by
  have ended : ¬ (c ≠ '\n' ∧ isControl c = true) := by
    rintro ⟨inside, control⟩
    rw [allowed.resolve_right inside] at control
    cases control
  rw [blockBody.eq_def, goesOn]
  dsimp only
  split
  · next absent => cases absent
  · next after returned =>
    cases returned
    cases allowed with
    | inl visible => cases visible
    | inr newline => cases newline
  · next held =>
    cases held
    rw [if_neg raw, if_neg ended]

theorem joinLines?_of_escape? {cs after : List Char} {c : Char}
    (means : escape? cs = some (c, after))
    : joinLines? cs = none := by
  unfold escape? at means
  split at means
  case h_10 => cases means
  all_goals simp [joinLines?, skipSpace, isSpace, newline?]

theorem blockBody_escape {q : Quote} (escapes : q.escapes = true) {c : Char}
    {rest after : List Char} (means : escape? rest = some (c, after))
    (goesOn : blockEnd? q.mark ('\\' :: rest) = none)
    : blockBody q ('\\' :: rest) = (blockBody q after).push c := by
  rw [blockBody.eq_def, goesOn]
  dsimp only
  split
  · next absent => cases absent
  · next returned => cases returned
  · next held =>
    cases held
    rw [if_pos ⟨rfl, escapes⟩]
    split
    · next joined =>
      rw [joinLines?_of_escape? means] at joined
      cases joined
    · split
      · next found =>
        rw [means] at found
        cases found
        rfl
      · next absent =>
        rw [means] at absent
        cases absent

/-- What stands in a block begins with at most two marks, and these are all of it or something else
follows them; by induction on what stands there.
-/
theorem Form.Stands.marks_or_other {f : Form} {run : Nat} {cs written : List Char}
    (stands : f.Stands run cs written) (le : run ≤ 2)
    : ∃ few,
        run + few ≤ 2
        ∧ (cs = List.replicate few f.quote.mark ∧ written = List.replicate few f.quote.mark
          ∨ ∃ c more,
              c ≠ f.quote.mark ∧ written = List.replicate few f.quote.mark ++ c :: more) := by
  induction stands with
  | done => exact ⟨0, le, Or.inl ⟨rfl, rfl⟩⟩
  | mark block few later ih =>
      obtain ⟨more, small, marks⟩ := ih few
      refine ⟨more + 1, by omega, ?_⟩
      rcases marks with ⟨rfl, rfl⟩ | ⟨c, after, other, rfl⟩
      · exact Or.inl ⟨rfl, rfl⟩
      · exact Or.inr ⟨c, after, other, rfl⟩
  | plain other raw allowed later ih => exact ⟨0, le, Or.inr ⟨_, _, other, rfl⟩⟩
  | escaped escapes means later ih =>
      exact ⟨0, le, Or.inr ⟨_, _, f.quote.mark_ne_backslash, rfl⟩⟩

/-- Wherever a block is read, its end is found there with all that is left of the text, or is not
found there at all.
-/
theorem Form.Stands.ends_or_goes_on {f : Form} {run : Nat} {cs written : List Char}
    (stands : f.Stands run cs written) (le : run ≤ 2) {rest : List Char}
    (ends : rest.head? ≠ some f.quote.mark)
    : blockEnd? f.quote.mark (written ++ f.quote.mark :: f.quote.mark :: f.quote.mark :: rest)
        = some (cs, rest)
      ∨ blockEnd? f.quote.mark
            (written ++ f.quote.mark :: f.quote.mark :: f.quote.mark :: rest)
          = none := by
  obtain ⟨few, small, marks⟩ := stands.marks_or_other le
  have le : few ≤ 2 := by omega
  rcases marks with ⟨rfl, rfl⟩ | ⟨c, more, other, rfl⟩
  · exact Or.inl (blockEnd?_marks le ends)
  · rw [List.append_assoc]
    exact Or.inr (blockEnd?_other other le _)

/-- What stands for a text in a block is read as the text, by induction on what stands there. -/
theorem Form.Stands.blockBody {f : Form} {run : Nat} {cs written : List Char}
    (stands : f.Stands run cs written) (le : run ≤ 2) {rest : List Char}
    (ends : rest.head? ≠ some f.quote.mark)
    : blockBody f.quote (written ++ f.quote.mark :: f.quote.mark :: f.quote.mark :: rest)
      = some (cs, rest) := by
  induction stands with
  | done =>
      have found := blockEnd?_marks (Nat.zero_le 2) ends
      rw [List.replicate_zero, List.nil_append] at found
      rw [List.nil_append, blockBody.eq_def, found]
  | mark block few later ih =>
      rcases (Stands.mark block few later).ends_or_goes_on le ends with found | goesOn
      · rw [blockBody.eq_def, found]
      · have raw : ¬ (f.quote.mark = '\\' ∧ f.quote.escapes = true) :=
          fun wrong => f.quote.mark_ne_backslash wrong.1.symm
        rw [List.cons_append] at goesOn ⊢
        rw [blockBody_plain goesOn raw (Or.inl f.quote.isControl_mark), ih few]
        rfl
  | plain other raw allowed later ih =>
      rcases (Stands.plain other raw allowed later).ends_or_goes_on le ends with found | goesOn
      · rw [blockBody.eq_def, found]
      · rw [List.cons_append] at goesOn ⊢
        rw [blockBody_plain goesOn raw (allowed.imp_right And.right), ih (Nat.zero_le 2)]
        rfl
  | escaped escapes means later ih =>
      rcases (Stands.escaped escapes means later).ends_or_goes_on le ends with found | goesOn
      · rw [blockBody.eq_def, found]
      · rw [List.cons_append, List.cons_append, List.append_assoc] at goesOn ⊢
        rw [blockBody_escape escapes (means _) goesOn, ih (Nat.zero_le 2)]
        rfl

-------------------------------------------------------------------------------
-- Writing
-------------------------------------------------------------------------------

/-- An escape that is written for a control character is read as that character. -/
theorem escape?_code {c : Char} (control : isControl c = true) (rest : List Char)
    : escape? ('u' :: Text.fourHex c.toNat ++ rest) = some (c, rest) := by
  have small : c.toNat < 65536 := by
    simp only [isControl, Bool.or_eq_true, Bool.and_eq_true, decide_eq_true_eq, beq_iff_eq]
      at control
    omega
  have valid : c.toNat.isValidChar := c.valid
  have code : Text.charOfCode? c.toNat = some c := by
    rw [Text.charOfCode?, if_pos valid, Char.ofNat_toNat]
  have length : (Text.fourHex c.toNat).length = 4 := rfl
  simp only [escape?, List.cons_append, Text.readCode?]
  rw [List.take_left' length, List.drop_left' length, length, if_pos rfl,
    Text.readHex?_fourHex _ small, Option.bind_some, code]
  rfl

/-- A character of a basic text is written as it is, or as an escape that is read as it. -/
theorem escape_cases (inBlock : Bool) (c : Char)
    : escape inBlock c = [c]
        ∧ c ≠ '\\'
        ∧ (isControl c = false ∨ inBlock = true ∧ c = '\n')
      ∨ ∃ sign,
          escape inBlock c = '\\' :: sign ∧ ∀ rest, escape? (sign ++ rest) = some (c, rest) := by
  unfold escape
  split
  case h_3 =>
    cases inBlock with
    | false => exact Or.inr ⟨['n'], rfl, fun rest => rfl⟩
    | true => exact Or.inl ⟨rfl, by decide, Or.inr ⟨rfl, rfl⟩⟩
  case h_7 _ _ _ _ _ backslash =>
    cases control : isControl c with
    | false => exact Or.inl ⟨rfl, backslash, Or.inl rfl⟩
    | true => exact Or.inr ⟨_, rfl, escape?_code control⟩
  all_goals exact Or.inr ⟨_, rfl, fun rest => rfl⟩

/-- What is written for a basic text stands for it, by induction on the text. -/
theorem stands_basicContent {f : Form} (basic : f.quote = .basic) (run : Nat) (cs : List Char)
    : f.Stands run cs (basicContent f.isBlock run cs) := by
  have escapes : f.quote.escapes = true := by rw [basic]; rfl
  have mark : f.quote.mark = '"' := by rw [basic]; rfl
  induction cs generalizing run with
  | nil => exact .done
  | cons c rest ih =>
      unfold basicContent
      split
      · next quotes =>
        subst quotes
        split
        · next few =>
          rw [← mark]
          exact .mark few.1 few.2 (ih (run + 1))
        · have means (rest : List Char) : escape? (['"'] ++ rest) = some ('"', rest) := rfl
          exact .escaped escapes means (ih 0)
      · next other =>
        rcases escape_cases f.isBlock c with ⟨same, backslash, allowed⟩ | ⟨sign, written, means⟩
        · rw [same]
          exact .plain (mark ▸ other) (fun wrong => backslash wrong.1) allowed (ih 0)
        · rw [written]
          exact .escaped escapes means (ih 0)

theorem le_longestRun_go (mark : Char) (cs : List Char) (current longest : Nat)
    : longest ≤ longestRun.go mark current longest cs := by
  induction cs generalizing current longest with
  | nil => exact Nat.le_refl _
  | cons c rest ih =>
      unfold longestRun.go
      split
      · exact Nat.le_trans (Nat.le_max_left _ _) (ih _ _)
      · exact ih _ _

/-- A literal text stands for itself where its marks and its other characters are allowed, by
induction on the text. Of the marks a block allows two in a row, and a line none.
-/
theorem stands_literal {f : Form} (literal : f.quote = .literal) {cs : List Char}
    (allowed : ∀ c ∈ cs, isControl c = false ∨ f.isBlock = true ∧ c = '\n') {run longest : Nat}
    (few : longestRun.go f.quote.mark run longest cs ≤ if f.isBlock then 2 else 0)
    : f.Stands run cs cs := by
  have raw (c : Char) : ¬ (c = '\\' ∧ f.quote.escapes = true) := by
    rw [literal]
    exact fun wrong => Bool.noConfusion wrong.2
  induction cs generalizing run longest with
  | nil => exact .done
  | cons c rest ih =>
      obtain ⟨here, later⟩ := List.forall_mem_cons.1 allowed
      unfold longestRun.go at few
      split at few
      · next same =>
        have counted := Nat.le_trans (le_longestRun_go _ _ _ _) few
        have inBlock : f.isBlock = true := by
          cases block : f.isBlock with
          | true => rfl
          | false => simp [block] at counted
        rw [inBlock, if_pos rfl] at counted
        rw [same]
        exact .mark inBlock (by omega) (ih later few)
      · next other => exact .plain other (raw c) here (ih later few)

-------------------------------------------------------------------------------
-- The form that is chosen
-------------------------------------------------------------------------------

namespace Form

/-- What is written between the marks. -/
def content (f : Form) (cs : List Char) : List Char :=
  match f.quote with
  | .basic => basicContent f.isBlock 0 cs
  | .literal => cs

/-- A literal form is chosen only for a text that can stand in it as it is. -/
theorem choose_suits (cs : List Char)
    : (choose cs).quote = .basic
      ∨ (choose cs).quote = .literal
        ∧ (∀ c ∈ cs, isControl c = false ∨ (choose cs).isBlock = true ∧ c = '\n')
        ∧ longestRun '\'' cs ≤ if (choose cs).isBlock then 2 else 0 := by
  have visible (plain : (cs.any fun c => isControl c && c != '\n') = false) (c : Char)
      (member : c ∈ cs)
      : isControl c = false ∨ c = '\n' := by
    have free := List.any_eq_false.1 plain c member
    cases control : isControl c with
    | false => exact Or.inl rfl
    | true => exact Or.inr (by simpa [control] using free)
  unfold choose
  dsimp only
  split
  · exact Or.inl rfl
  split
  · next line =>
    simp only [Bool.and_eq_true, Bool.not_eq_true', beq_iff_eq] at line
    obtain ⟨⟨free, unmarked⟩, single⟩ := line
    refine Or.inr ⟨rfl, fun c member => Or.inl ?_, Nat.le_of_eq unmarked⟩
    refine (visible free c member).resolve_right ?_
    rintro rfl
    rw [List.contains_iff_mem.2 member] at single
    cases single
  split
  · exact Or.inl rfl
  split
  · next block =>
    simp only [Bool.and_eq_true, Bool.not_eq_true', decide_eq_true_eq] at block
    obtain ⟨free, few⟩ := block
    exact Or.inr ⟨rfl, fun c member => (visible free c member).imp_right (⟨rfl, ·⟩), few⟩
  · exact Or.inl rfl

/-- What is written in the chosen form stands for the text. -/
theorem stands_choose (cs : List Char) : (choose cs).Stands 0 cs ((choose cs).content cs) := by
  rcases choose_suits cs with basic | ⟨literal, allowed, few⟩
  · rw [content, basic]
    exact stands_basicContent basic 0 cs
  · rw [content, literal]
    have mark : (choose cs).quote.mark = '\'' := by rw [literal]; rfl
    rw [longestRun, ← mark] at few
    exact stands_literal literal allowed few

-------------------------------------------------------------------------------
-- Texts with their marks
-------------------------------------------------------------------------------

theorem newline?_cons {c : Char} (feed : c ≠ '\n') (carriage : c ≠ '\r') (rest : List Char)
    : newline? (c :: rest) = none := by
  unfold newline?
  split
  · next found => cases found; exact absurd rfl feed
  · next found => cases found; exact absurd rfl carriage
  · rfl

/-- A block that does not begin with a line end of its own holds one only if its text does. -/
theorem Stands.newline? {f : Form} {run : Nat} {cs written : List Char}
    (stands : f.Stands run cs written) (single : '\n' ∉ cs) (rest : List Char)
    : newline? (written ++ f.quote.mark :: rest) = none := by
  have marks (more : List Char) : Toml.newline? (f.quote.mark :: more) = none := by
    cases f.quote <;> rfl
  cases stands with
  | done => exact marks _
  | mark block few later => exact marks _
  | @plain _ c _ _ other raw allowed later =>
      have feed : c ≠ '\n' := fun same => single (same ▸ List.mem_cons_self)
      have visible := allowed.resolve_right fun broken => feed broken.2
      have carriage : c ≠ '\r' := by
        rintro rfl
        cases visible
      exact newline?_cons feed carriage _
  | escaped escapes means later => rfl

/-- A text on one line is not taken for a block. -/
theorem Stands.not_block {f : Form} {run : Nat} {cs written : List Char}
    (stands : f.Stands run cs written) (single : f.isBlock = false) {rest : List Char}
    (ends : rest.head? ≠ some f.quote.mark)
    : [f.quote.mark, f.quote.mark, f.quote.mark].isPrefixOf
          (f.quote.mark :: (written ++ f.quote.mark :: rest))
        = false := by
  cases stands with
  | done =>
      cases rest with
      | nil => simp
      | cons c rest =>
          have other : c ≠ f.quote.mark := fun same => ends (congrArg some same)
          simp [List.isPrefixOf, Ne.symm other]
  | mark block few later => rw [single] at block; cases block
  | plain other raw allowed later => simp [List.isPrefixOf, Ne.symm other]
  | escaped escapes means later =>
      simp [List.isPrefixOf, Ne.symm f.quote.mark_ne_backslash]

theorem write_eq (f : Form) (cs : List Char)
    : f.write cs
      = f.marks ++ (if f.isBlock && cs.contains '\n' then ['\n'] else []) ++ f.content cs
        ++ f.marks :=
  rfl

section Written
variable {f : Form} {cs : List Char} (stands : f.Stands 0 cs (f.content cs)) {rest : List Char}
  (ends : rest.head? ≠ some f.quote.mark)
include stands ends

theorem readText_line (single : f.isBlock = false)
    : readText f.quote (f.write cs ++ rest) = some (String.ofList cs, rest) := by
  have written : f.write cs ++ rest = f.quote.mark :: (f.content cs ++ f.quote.mark :: rest) := by
    simp [write_eq, marks, single]
  rw [written, readText, stands.not_block single ends]
  simp only [Bool.false_eq_true, if_false, List.drop_succ_cons, List.drop_zero]
  rw [stands.lineBody single]
  rfl

/-- The line end that may stand right behind the opening marks is written only before a text that
has line ends of its own, and without it none stands there.
-/
theorem readText_block (block : f.isBlock = true)
    : readText f.quote (f.write cs ++ rest) = some (String.ofList cs, rest) := by
  have body := stands.blockBody (Nat.zero_le 2) ends
  have opened {more : List Char} (inside : Toml.block f.quote more = some (cs, rest))
      : readText f.quote (f.quote.mark :: f.quote.mark :: f.quote.mark :: more)
        = some (String.ofList cs, rest) := by
    simp [readText, List.isPrefixOf, inside]
  by_cases lines : cs.contains '\n' = true
  · have written
        : f.write cs ++ rest
          = f.quote.mark :: f.quote.mark :: f.quote.mark :: '\n'
            :: (f.content cs ++ f.quote.mark :: f.quote.mark :: f.quote.mark :: rest) := by
      simp [write_eq, marks, block, List.replicate, List.contains_iff_mem.1 lines]
    have skipped (more : List Char) : Toml.newline? ('\n' :: more) = some more := rfl
    rw [written]
    exact opened (by rw [Toml.block, skipped, Option.getD_some, body])
  · have single : '\n' ∉ cs := mt List.contains_iff_mem.2 lines
    have written
        : f.write cs ++ rest
          = f.quote.mark :: f.quote.mark :: f.quote.mark
            :: (f.content cs ++ f.quote.mark :: f.quote.mark :: f.quote.mark :: rest) := by
      simp [write_eq, marks, block, List.replicate, single]
    rw [written]
    exact opened (by rw [Toml.block, stands.newline? single, Option.getD_none, body])

/-- A text is read back from a form in which what is written stands for it. -/
theorem readText_write : readText f.quote (f.write cs ++ rest) = some (String.ofList cs, rest) := by
  cases block : f.isBlock with
  | false => exact readText_line stands ends block
  | true => exact readText_block stands ends block

end Written

end Form

theorem quoted_begins (text : String)
    : ∃ more, (quoted text).toList = (Form.choose text.toList).quote.mark :: more := by
  rw [quoted, String.toList_ofList]
  cases block : (Form.choose text.toList).isBlock <;>
    simp [Form.write, Form.marks, block, List.replicate]

/-- A quoted text is read back as the text, whatever follows it but a mark. -/
theorem readScalar_quoted (text : String) {rest : List Char}
    (ends : ∀ q : Quote, rest.head? ≠ some q.mark)
    : readScalar ((quoted text).toList ++ rest) = some (.text text, rest) := by
  have read := Form.readText_write (Form.stands_choose text.toList) (ends _)
  have written : (quoted text).toList = (Form.choose text.toList).write text.toList :=
    String.toList_ofList
  obtain ⟨more, begins⟩ := quoted_begins text
  rw [← written, begins, String.ofList_toList, List.cons_append] at read
  rw [begins, List.cons_append]
  generalize (Form.choose text.toList).quote = q at read ⊢
  cases q with
  | basic => exact congrArg (Option.map _) read
  | literal => exact congrArg (Option.map _) read

end BoostZones.Toml
