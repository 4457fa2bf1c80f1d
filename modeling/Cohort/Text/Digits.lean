/-! # Digits and their values -/

namespace Cohort.Text

/-- The value of decimal digits. -/
def digitsValue (ds : List Char) : Nat :=
  ds.foldl (fun n c => 10 * n + (c.toNat - 48)) 0

/-- The value of a hexadecimal digit. -/
def hexDigit? (c : Char) : Option Nat :=
  if '0' ≤ c ∧ c ≤ '9' then some (c.toNat - 48)
  else if 'A' ≤ c ∧ c ≤ 'F' then some (c.toNat - 55)
  else if 'a' ≤ c ∧ c ≤ 'f' then some (c.toNat - 87)
  else none

/-- The value of hexadecimal digits. -/
def hexValue? (ds : List Char) : Option Nat := do
  return (← ds.mapM hexDigit?).foldl (fun n d => 16 * n + d) 0

end Cohort.Text
