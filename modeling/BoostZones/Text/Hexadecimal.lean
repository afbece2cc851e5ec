/-!
Hexadecimal codes of characters: the value of a row of digits in letters of either case, and the
four digits of a small code. Reading undoes writing.
-/

namespace BoostZones.Text

/-- The value of a hexadecimal digit. -/
def hexValue? (c : Char) : Option Nat :=
  if '0' ≤ c ∧ c ≤ '9' then some (c.toNat - 48)
  else if 'a' ≤ c ∧ c ≤ 'f' then some (c.toNat - 87)
  else if 'A' ≤ c ∧ c ≤ 'F' then some (c.toNat - 55)
  else none

/-- The value of a row of hexadecimal digits. -/
def readHex? (cs : List Char) : Option Nat :=
  cs.foldlM (fun n c => (hexValue? c).map (16 * n + ·)) 0

/-- The character with a code, if there is one. -/
def charOfCode? (code : Nat) : Option Char :=
  if code.isValidChar then some (Char.ofNat code) else none

/-- The character whose code stands in the first `places` digits, and what follows them. -/
def readCode? (places : Nat) (cs : List Char) : Option (Char × List Char) :=
  let digits := cs.take places
  if digits.length = places then
    ((readHex? digits).bind charOfCode?).map (·, cs.drop places)
  else none

/-- The hexadecimal digit of a value below sixteen, in a capital letter. -/
def hexDigit (n : Nat) : Char :=
  if n < 10 then Char.ofNat (48 + n) else Char.ofNat (55 + n)

/-- Four hexadecimal digits. -/
def fourHex (n : Nat) : List Char :=
  [n / 4096 % 16, n / 256 % 16, n / 16 % 16, n % 16].map hexDigit

theorem hexValue?_hexDigit : ∀ n < 16, hexValue? (hexDigit n) = some n := by
  decide

theorem readHex?_fourHex (n : Nat) (small : n < 65536) : readHex? (fourHex n) = some n := by
  have digit (k : Nat) : hexValue? (hexDigit (k % 16)) = some (k % 16) :=
    hexValue?_hexDigit _ (Nat.mod_lt k (by decide))
  simp only [readHex?, fourHex, List.map_cons, List.map_nil, List.foldlM_cons, List.foldlM_nil,
    digit, Option.map_some, Option.bind_eq_bind, Option.bind_some, Option.pure_def,
    Option.some.injEq]
  omega

theorem length_readCode? {places : Nat} {cs rest : List Char} {c : Char}
    (h : readCode? places cs = some (c, rest)) : rest.length ≤ cs.length := by
  simp only [readCode?] at h
  split at h
  · simp only [Option.map_eq_some_iff, Prod.mk.injEq] at h
    obtain ⟨_, _, _, rfl⟩ := h
    simp
  · cases h

end BoostZones.Text
