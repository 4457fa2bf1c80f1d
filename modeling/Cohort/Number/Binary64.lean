/-! # Binary64 numbers, counted in units of the least positive one -/

namespace Cohort

/-- The number of units in one: the least positive number is 2^-1074. -/
def unitsPerOne : Nat := Nat.pow 2 1074

/-- A finite binary64 number: its sign, and its magnitude in units of 2^-1074. Zero has two signs. -/
structure Binary64 where
  negative : Bool
  units : Nat
deriving DecidableEq, Repr, Inhabited

/-! ## Rounding -/

/-- The integer nearest to a quotient; of two equally near, the even one. -/
def nearestEven (num den : Nat) : Nat :=
  let q := num / den
  let r := num % den
  if 2 * r < den then q
  else if den < 2 * r then q + 1
  else if q % 2 = 0 then q else q + 1

/-- The distance between neighbouring magnitudes at `n` units: 53 significant bits are kept. -/
def spacing (n : Nat) : Nat := Nat.pow 2 (n.log2 - 52)

/-- The magnitude nearest to a quotient of units; of two equally near, the one with the even
significand. -/
def roundUnits (num den : Nat) : Nat :=
  let s := spacing (num / den)
  nearestEven num (den * s) * s

/-- The units of the first magnitude that is too large. -/
def unitsOverflow : Nat := Nat.pow 2 2098

namespace Binary64

/-- The number nearest to a quotient, unless it is too large. -/
def ofRatio? (negative : Bool) (num den : Nat) : Option Binary64 :=
  let u := roundUnits (num * unitsPerOne) den
  if u < unitsOverflow then some ⟨negative, u⟩ else none

/-- The number nearest to an integer below 2^1024. -/
def ofInt (n : Int) : Binary64 :=
  ⟨n < 0, roundUnits (n.natAbs * unitsPerOne) 1⟩

/-- How many decimal digits a natural number has. -/
def digitCount (n : Nat) : Nat := (Nat.toDigits 10 n).length

/-- The number nearest to `digits * 10^exponent`, unless it is too large. Powers of ten far outside
the range are not computed. -/
def ofDecimal? (negative : Bool) (digits : Nat) (exponent : Int) : Option Binary64 :=
  if digits = 0 then some ⟨negative, 0⟩
  else
    let size := digitCount digits + exponent
    if 310 < size then none
    else if size < -330 then some ⟨negative, 0⟩
    else if 0 ≤ exponent then ofRatio? negative (digits * Nat.pow 10 exponent.toNat) 1
    else ofRatio? negative digits (Nat.pow 10 (-exponent).toNat)

/-! ## Value and order -/

/-- The value in units. -/
def toUnits (x : Binary64) : Int :=
  if x.negative then -(x.units : Int) else x.units

/-- Whether the value is an integer. -/
def isWhole (x : Binary64) : Bool := x.units % unitsPerOne == 0

/-- The integer part of the value. -/
def truncate (x : Binary64) : Int :=
  if x.negative then -((x.units / unitsPerOne : Nat) : Int) else (x.units / unitsPerOne : Nat)

/-- Whether two numbers have the same value. -/
def sameValue (x y : Binary64) : Bool := x.toUnits == y.toUnits

end Binary64

/-- A bound: a number, an infinity, or no number at all. -/
inductive Extended where
  | finite (x : Binary64)
  | infinity (negative : Bool)
  | undefined
deriving DecidableEq, Repr

namespace Extended

/-- Positive zero. -/
def zero : Extended := .finite ⟨false, 0⟩

instance : Inhabited Extended := ⟨zero⟩

/-- Whether the value is zero, of either sign. -/
def isZero : Extended → Bool
  | .finite x => x.units == 0
  | _ => false

/-- Whether a value in units lies below the bound. -/
def above (bound : Extended) (units : Int) : Bool :=
  match bound with
  | .finite x => units < x.toUnits
  | .infinity negative => !negative
  | .undefined => false

/-- Whether a value in units lies above the bound. -/
def below (bound : Extended) (units : Int) : Bool :=
  match bound with
  | .finite x => x.toUnits < units
  | .infinity negative => negative
  | .undefined => false

end Extended

end Cohort
