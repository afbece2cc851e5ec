import BoostZones.Toml.Text

/-!
How a text is written in quotes. The plainest form that can hold the text is chosen: on one line
with quotation marks, then with apostrophes, then a block of either kind, and escapes only where
none of these can do without them.
-/

namespace BoostZones.Toml

/-- The length of the longest run of a character. -/
def longestRun (mark : Char) (cs : List Char) : Nat :=
  go 0 0 cs
where
  go (current longest : Nat) : List Char → Nat
    | [] => longest
    | c :: rest =>
      if c = mark then go (current + 1) (max longest (current + 1)) rest
      else go 0 longest rest

/-- A form: the kind of quotes, and whether it is a block. -/
structure Form where
  quote : Quote
  isBlock : Bool
deriving DecidableEq

/-- The form that a text is written in. -/
def Form.choose (cs : List Char) : Form :=
  let lines := cs.contains '\n'
  let controls := cs.any fun c => isControl c && c != '\n'
  let backslashes := cs.contains '\\'
  let quotes := longestRun '"' cs
  let apostrophes := longestRun '\'' cs
  if !controls && !backslashes && quotes == 0 && !lines then ⟨.basic, false⟩
  else if !controls && apostrophes == 0 && !lines then ⟨.literal, false⟩
  else if !controls && !backslashes && quotes ≤ 2 then ⟨.basic, true⟩
  else if !controls && apostrophes ≤ 2 then ⟨.literal, true⟩
  else ⟨.basic, lines⟩

/-- A character in a basic text, quotation marks apart. A block holds line ends as they are. -/
def escape (inBlock : Bool) (c : Char) : List Char :=
  match c with
  | '\x08' => ['\\', 'b']
  | '\t' => ['\\', 't']
  | '\n' => if inBlock then ['\n'] else ['\\', 'n']
  | '\x0c' => ['\\', 'f']
  | '\r' => ['\\', 'r']
  | '\\' => ['\\', '\\']
  | c => if isControl c then '\\' :: 'u' :: Text.fourHex c.toNat else [c]

/-- The characters between the marks of a basic text. In a block a quotation mark is escaped
when two stand right before it; `run` counts those. -/
def basicContent (inBlock : Bool) (run : Nat) : List Char → List Char
  | [] => []
  | c :: rest =>
    if c = '"' then
      if inBlock ∧ run < 2 then '"' :: basicContent inBlock (run + 1) rest
      else '\\' :: '"' :: basicContent inBlock 0 rest
    else escape inBlock c ++ basicContent inBlock 0 rest

/-- The marks at either end of a form. -/
def Form.marks (f : Form) : List Char :=
  List.replicate (if f.isBlock then 3 else 1) f.quote.mark

/-- A text in a form. A block of several lines begins on a line of its own. -/
def Form.write (f : Form) (cs : List Char) : List Char :=
  let content :=
    match f.quote with
    | .basic => basicContent f.isBlock 0 cs
    | .literal => cs
  let lineEnd := if f.isBlock && cs.contains '\n' then ['\n'] else []
  f.marks ++ lineEnd ++ content ++ f.marks

/-- A text in the form that is chosen for it. -/
def quoted (text : String) : String :=
  String.ofList ((Form.choose text.toList).write text.toList)

end BoostZones.Toml
