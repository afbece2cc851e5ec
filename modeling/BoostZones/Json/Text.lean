import BoostZones.Text.Hexadecimal

/-!
Texts in JSON. Control characters are escaped, and a character with a large code may be escaped
as two halves, which have to come together.
-/

namespace BoostZones.Json

/-- The code that two halves of an escaped character stand for. -/
def joinHalves (high low : Nat) : Nat :=
  0x10000 + (high - 0xD800) * 0x400 + (low - 0xDC00)

/-- The code in the first four digits, and what follows them. -/
def readUnit? (cs : List Char) : Option (Nat × List Char) :=
  let digits := cs.take 4
  if digits.length = 4 then (Text.readHex? digits).map (·, cs.drop 4) else none

/-- The character whose first half is `high`, read after that half, and what follows it. -/
def lowHalf? (high : Nat) : List Char → Option (Char × List Char)
  | '\\' :: 'u' :: cs => do
    let (low, rest) ← readUnit? cs
    if 0xDC00 ≤ low ∧ low < 0xE000 then
      return (← Text.charOfCode? (joinHalves high low), rest)
    else none
  | _ => none

/-- The character of an escape by code, read after its letter, and what follows it. -/
def codeEscape? (cs : List Char) : Option (Char × List Char) := do
  let (code, rest) ← readUnit? cs
  if 0xD800 ≤ code ∧ code < 0xDC00 then lowHalf? code rest
  else return (← Text.charOfCode? code, rest)

/-- The character of an escape, read after its backslash, and what follows it. -/
def escape? : List Char → Option (Char × List Char)
  | '"' :: rest => some ('"', rest)
  | '\\' :: rest => some ('\\', rest)
  | '/' :: rest => some ('/', rest)
  | 'b' :: rest => some ('\x08', rest)
  | 'f' :: rest => some ('\x0c', rest)
  | 'n' :: rest => some ('\n', rest)
  | 'r' :: rest => some ('\r', rest)
  | 't' :: rest => some ('\t', rest)
  | 'u' :: rest => codeEscape? rest
  | _ => none

theorem length_readUnit? {cs rest : List Char} {code : Nat}
    (h : readUnit? cs = some (code, rest)) : rest.length ≤ cs.length := by
  simp only [readUnit?] at h
  split at h
  · simp only [Option.map_eq_some_iff, Prod.mk.injEq] at h
    obtain ⟨_, _, _, rfl⟩ := h
    simp
  · cases h

theorem length_lowHalf? {high : Nat} {cs rest : List Char} {c : Char}
    (h : lowHalf? high cs = some (c, rest)) : rest.length ≤ cs.length := by
  unfold lowHalf? at h
  split at h
  · next cs =>
    simp only [Option.bind_eq_bind, Option.bind_eq_some_iff] at h
    obtain ⟨⟨low, after⟩, second, h⟩ := h
    have bound := length_readUnit? second
    split at h
    · simp only [Option.bind_eq_some_iff, Option.pure_def, Option.some.injEq,
        Prod.mk.injEq] at h
      obtain ⟨_, _, _, rfl⟩ := h
      simp only [List.length_cons]
      omega
    · cases h
  · cases h

theorem length_codeEscape? {cs rest : List Char} {c : Char}
    (h : codeEscape? cs = some (c, rest)) : rest.length ≤ cs.length := by
  simp only [codeEscape?, Option.bind_eq_bind, Option.bind_eq_some_iff] at h
  obtain ⟨⟨code, after⟩, first, h⟩ := h
  have bound := length_readUnit? first
  split at h
  · exact Nat.le_trans (length_lowHalf? h) bound
  · simp only [Option.bind_eq_some_iff, Option.pure_def, Option.some.injEq,
      Prod.mk.injEq] at h
    obtain ⟨_, _, _, rfl⟩ := h
    exact bound

theorem length_escape? {cs rest : List Char} {c : Char} (h : escape? cs = some (c, rest))
    : rest.length < cs.length := by
  unfold escape? at h
  split at h
  case h_9 =>
    have below := length_codeEscape? h
    simp only [List.length_cons]
    omega
  case h_10 => cases h
  all_goals
    simp only [Option.some.injEq, Prod.mk.injEq] at h
    simp [← h.2]

/-- The characters up to the closing mark, and what follows it. -/
def readContent (cs : List Char) : Option (List Char × List Char) :=
  match cs with
  | [] => none
  | c :: rest =>
    if c = '"' then some ([], rest)
    else if c = '\\' then
      match _h : escape? rest with
      | some (escaped, after) =>
        (readContent after).map fun (content, rest) => (escaped :: content, rest)
      | none => none
    else if c.toNat < 0x20 then none
    else (readContent rest).map fun (content, rest) => (c :: content, rest)
termination_by cs.length
decreasing_by
  · have below := length_escape? (by assumption)
    simp only [List.length_cons]
    omega
  · exact Nat.lt_succ_self _

/-- A character as it stands in a text. -/
def writeChar (c : Char) : List Char :=
  match c with
  | '"' => ['\\', '"']
  | '\\' => ['\\', '\\']
  | '\x08' => ['\\', 'b']
  | '\x0c' => ['\\', 'f']
  | '\n' => ['\\', 'n']
  | '\r' => ['\\', 'r']
  | '\t' => ['\\', 't']
  | c => if c.toNat < 0x20 then '\\' :: 'u' :: (Text.fourHex c.toNat).map Char.toLower else [c]

/-- A text between its marks. -/
def writeText (text : String) : String :=
  "\"" ++ String.ofList (text.toList.flatMap writeChar) ++ "\""

end BoostZones.Json
