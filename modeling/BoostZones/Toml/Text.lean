import BoostZones.Text.Hexadecimal
import BoostZones.Toml.Space

/-!
Texts in quotes. A basic text stands between quotation marks and has escapes; a literal text
stands between apostrophes and means what it says. Three marks begin a block, which can hold
line ends, and up to two marks of its own kind anywhere.
-/

namespace BoostZones.Toml

/-- The two kinds of quotes. -/
inductive Quote where
  | basic
  | literal
deriving DecidableEq

def Quote.mark : Quote → Char
  | .basic => '"'
  | .literal => '\''

/-- A backslash begins an escape. -/
def Quote.escapes : Quote → Bool
  | .basic => true
  | .literal => false

/-- The character of an escape, read after its backslash, and what follows it. -/
def escape? : List Char → Option (Char × List Char)
  | 'b' :: rest => some ('\x08', rest)
  | 't' :: rest => some ('\t', rest)
  | 'n' :: rest => some ('\n', rest)
  | 'f' :: rest => some ('\x0c', rest)
  | 'r' :: rest => some ('\r', rest)
  | '"' :: rest => some ('"', rest)
  | '\\' :: rest => some ('\\', rest)
  | 'u' :: rest => Text.readCode? 4 rest
  | 'U' :: rest => Text.readCode? 8 rest
  | _ => none

theorem length_escape? {cs rest : List Char} {c : Char} (h : escape? cs = some (c, rest))
    : rest.length < cs.length := by
  unfold escape? at h
  split at h
  case h_8 | h_9 =>
    have below := Text.length_readCode? h
    simp only [List.length_cons]
    omega
  case h_10 => cases h
  all_goals
    simp only [Option.some.injEq, Prod.mk.injEq] at h
    simp [← h.2]

/-- What a text is read to: its characters, and what follows its closing mark. -/
abbrev Quoted := Option (List Char × List Char)

/-- The character before what is read. -/
def Quoted.push (c : Char) (q : Quoted) : Quoted :=
  q.map fun (content, rest) => (c :: content, rest)

/-- Reads a text on one line, after its opening mark. -/
def lineBody (q : Quote) (cs : List Char) : Quoted :=
  match cs with
  | [] => none
  | c :: rest =>
    if c = q.mark then some ([], rest)
    else if c = '\\' ∧ q.escapes then
      match _h : escape? rest with
      | some (escaped, after) => (lineBody q after).push escaped
      | none => none
    else if isControl c then none
    else (lineBody q rest).push c
termination_by cs.length
decreasing_by
  · have below := length_escape? (by assumption)
    simp only [List.length_cons]
    omega
  · exact Nat.lt_succ_self _

/-- The end of a block: three marks, and before them up to two that belong to the text. -/
def blockEnd? (mark : Char) (cs : List Char) : Quoted :=
  if [mark, mark, mark].isPrefixOf cs then
    let inside := (((cs.drop 3).takeWhile (· == mark)).length).min 2
    some (List.replicate inside mark, cs.drop (3 + inside))
  else none

/-- A line end behind a backslash joins the lines: what follows the blanks after it. -/
def joinLines? (cs : List Char) : Option (List Char) :=
  (newline? (skipSpace cs)).map skipLines

theorem length_joinLines? {cs rest : List Char} (h : joinLines? cs = some rest)
    : rest.length < cs.length := by
  simp only [joinLines?, Option.map_eq_some_iff] at h
  obtain ⟨after, found, rfl⟩ := h
  have := length_newline? found
  have := length_skipSpace_le cs
  have := length_skipLines_le after
  omega

/-- Reads a block, after its opening marks and the line end that may follow them. -/
def blockBody (q : Quote) (cs : List Char) : Quoted :=
  match blockEnd? q.mark cs with
  | some done => some done
  | none =>
    match cs with
    | [] => none
    | '\r' :: '\n' :: rest => (blockBody q rest).push '\n'
    | c :: rest =>
      if c = '\\' ∧ q.escapes then
        match _h : joinLines? rest with
        | some after => blockBody q after
        | none =>
          match _h : escape? rest with
          | some (escaped, after) => (blockBody q after).push escaped
          | none => none
      else if c ≠ '\n' ∧ isControl c then none
      else (blockBody q rest).push c
termination_by cs.length
decreasing_by
  · simp only [List.length_cons]
    omega
  · have below := length_joinLines? (by assumption)
    simp only [List.length_cons]
    omega
  · have below := length_escape? (by assumption)
    simp only [List.length_cons]
    omega
  · exact Nat.lt_succ_self _

/-- Reads a block after its opening marks. A line end right there is not part of it. -/
def block (q : Quote) (cs : List Char) : Quoted :=
  blockBody q ((newline? cs).getD cs)

end BoostZones.Toml
