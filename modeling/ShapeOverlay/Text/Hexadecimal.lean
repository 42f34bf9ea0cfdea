/-!
# Hexadecimal digits

A hexadecimal digit is written in lower case (`Hexadecimal.digit`) and read in either case
(`Hexadecimal.value?`).
-/

namespace ShapeOverlay.Hexadecimal

/-- The digit for a value below sixteen. -/
def digit (d : Nat) : Char :=
  if d < 10 then .ofNat ('0'.toNat + d) else .ofNat ('a'.toNat + (d - 10))

/-- The value of a digit, in either case. -/
def value? (c : Char) : Option Nat :=
  if '0' ≤ c ∧ c ≤ '9' then some (c.toNat - '0'.toNat)
  else if 'a' ≤ c ∧ c ≤ 'f' then some (c.toNat - 'a'.toNat + 10)
  else if 'A' ≤ c ∧ c ≤ 'F' then some (c.toNat - 'A'.toNat + 10)
  else none

/-- A digit that was written is read as its value. -/
theorem value?_digit {d : Nat} (h : d < 16) : value? (digit d) = some d := by
  revert d
  decide

end ShapeOverlay.Hexadecimal
