/-!
Status codes and flags. A kernel answers with a code; four codes have a meaning, and every
other code counts as an internal failure. A flag is a number that is false when it is zero.
-/

namespace BoostZones

/-- The meaning of a kernel's answer. -/
inductive Status where
  | ok
  | outOfMemory
  | unexpectedInternal
  | illegalParameter
deriving DecidableEq

namespace Status

def code : Status → Int32
  | .ok => 0
  | .outOfMemory => -1
  | .unexpectedInternal => -2
  | .illegalParameter => -3

/-- The status of a code. A code without a meaning is an internal failure. -/
def ofCode (code : Int32) : Status :=
  if code = 0 then .ok
  else if code = -1 then .outOfMemory
  else if code = -3 then .illegalParameter
  else .unexpectedInternal

def isOk (s : Status) : Bool :=
  s == .ok

theorem ofCode_code (s : Status) : ofCode s.code = s := by
  cases s <;> decide

theorem ofCode_eq_ok_iff (code : Int32) : ofCode code = .ok ↔ code = 0 := by
  unfold ofCode
  grind

end Status

/-- The flag of a truth value: one or zero. -/
def flag (b : Bool) : Int32 :=
  if b then 1 else 0

/-- A flag is set unless it is zero. -/
def isSet (f : Int32) : Bool :=
  f != 0

theorem isSet_flag (b : Bool) : isSet (flag b) = b := by
  cases b <;> decide

end BoostZones
