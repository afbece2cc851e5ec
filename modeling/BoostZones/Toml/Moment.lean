/-!
Dates and times of day. A date has a day that its month has; a time of day may follow it, and an
offset the time; a time of day may also stand alone. Only their shape is read.
-/

namespace BoostZones.Toml

/-- The number written in exactly `count` digits, and what follows them. -/
def fixedDigits? (count : Nat) (cs : List Char) : Option (Nat × List Char) :=
  let digits := cs.take count
  if digits.length = count ∧ digits.all Char.isDigit then
    some (Nat.ofDigitChars 10 digits 0, cs.drop count)
  else none

/-- What follows a two-digit number from `low` to `high`. -/
def twoDigits? (low high : Nat) (cs : List Char) : Option (Nat × List Char) :=
  (fixedDigits? 2 cs).filter fun (n, _) => low ≤ n && n ≤ high

/-- What follows a character. -/
def expect? (c : Char) : List Char → Option (List Char)
  | head :: rest => if head = c then some rest else none
  | [] => none

/-- The number of days of a month. -/
def daysIn (year month : Nat) : Nat :=
  if month = 2 then
    if year % 4 = 0 ∧ (year % 100 ≠ 0 ∨ year % 400 = 0) then 29 else 28
  else if month ∈ [4, 6, 9, 11] then 30 else 31

/-- What follows a date. -/
def date? (cs : List Char) : Option (List Char) := do
  let (year, rest) ← fixedDigits? 4 cs
  let rest ← expect? '-' rest
  let (month, rest) ← twoDigits? 1 12 rest
  let rest ← expect? '-' rest
  let (_, rest) ← twoDigits? 1 (daysIn year month) rest
  return rest

/-- What follows the fraction of a second, if there is one. -/
def skipFraction (cs : List Char) : List Char :=
  match cs with
  | '.' :: digit :: rest => if digit.isDigit then rest.dropWhile Char.isDigit else cs
  | _ => cs

/-- What follows a time of day. The second may be a leap second. -/
def time? (cs : List Char) : Option (List Char) := do
  let (_, rest) ← twoDigits? 0 23 cs
  let rest ← expect? ':' rest
  let (_, rest) ← twoDigits? 0 59 rest
  let rest ← expect? ':' rest
  let (_, rest) ← twoDigits? 0 60 rest
  return skipFraction rest

/-- What follows an offset from universal time. -/
def offset? : List Char → Option (List Char)
  | [] => none
  | c :: rest =>
    if c = 'Z' ∨ c = 'z' then some rest
    else if c = '+' ∨ c = '-' then do
      let (_, rest) ← twoDigits? 0 23 rest
      let rest ← expect? ':' rest
      let (_, rest) ← twoDigits? 0 59 rest
      return rest
    else none

/-- What follows the time of day behind a date. -/
def timeAfterDate? : List Char → Option (List Char)
  | [] => none
  | c :: rest =>
    if ['T', 't', ' '].contains c then
      (time? rest).map fun rest => (offset? rest).getD rest
    else none

/-- What follows a date, a time of day or both. -/
def moment? (cs : List Char) : Option (List Char) :=
  match date? cs with
  | some rest => some ((timeAfterDate? rest).getD rest)
  | none => time? cs

end BoostZones.Toml
