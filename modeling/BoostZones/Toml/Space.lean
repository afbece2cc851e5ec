/-!
What stands between the words of a TOML text: spaces, line ends and comments. A line ends with a
line feed, which a carriage return may precede; a carriage return on its own is nothing.
-/

namespace BoostZones.Toml

def isSpace (c : Char) : Bool :=
  c == ' ' || c == '\t'

/-- A control character, which neither a comment nor a text can hold as it is. A tab is none. -/
def isControl (c : Char) : Bool :=
  (c.toNat < 0x20 && c != '\t') || c.toNat == 0x7F

def skipSpace (cs : List Char) : List Char :=
  cs.dropWhile isSpace

/-- What follows a line end. -/
def newline? : List Char → Option (List Char)
  | '\n' :: rest => some rest
  | '\r' :: '\n' :: rest => some rest
  | _ => none

/-- What follows the rest of a line that holds at most a comment. -/
def lineEnd? (cs : List Char) : Option (List Char) :=
  let rest :=
    match skipSpace cs with
    | '#' :: comment => comment.dropWhile (!isControl ·)
    | rest => rest
  if rest.isEmpty then some [] else newline? rest

/-- What follows spaces and line ends. -/
def skipLines : List Char → List Char
  | '\r' :: '\n' :: rest => skipLines rest
  | c :: rest => if isSpace c || c == '\n' then skipLines rest else c :: rest
  | [] => []

/-- What follows spaces, line ends and comments; `inComment` says whether a comment is going on
at the beginning. -/
def skipBlank (inComment : Bool) : List Char → List Char
  | '\r' :: '\n' :: rest => skipBlank false rest
  | c :: rest =>
    if c == '\n' then skipBlank false rest
    else if inComment then if isControl c then c :: rest else skipBlank true rest
    else if isSpace c then skipBlank false rest
    else if c == '#' then skipBlank true rest
    else c :: rest
  | [] => []

theorem length_skipSpace_le (cs : List Char) : (skipSpace cs).length ≤ cs.length :=
  (List.dropWhile_sublist isSpace).length_le

theorem length_newline? {cs rest : List Char} (h : newline? cs = some rest)
    : rest.length < cs.length := by
  unfold newline? at h
  split at h <;> cases h <;> simp only [List.length_cons] <;> omega

theorem length_skipLines_le (cs : List Char) : (skipLines cs).length ≤ cs.length := by
  fun_induction skipLines cs with
  | case1 rest ih =>
    simp only [List.length_cons]
    omega
  | case2 c rest _ _ ih =>
    simp only [List.length_cons]
    omega
  | case3 => exact Nat.le_refl _
  | case4 => exact Nat.le_refl _

end BoostZones.Toml
