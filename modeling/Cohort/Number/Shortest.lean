import Cohort.Number.Binary64

/-! # The fewest digits that identify a number -/

namespace Cohort

/-- The decimal `digits * 10^exponent`. -/
structure Decimal where
  digits : Nat
  exponent : Int
deriving DecidableEq, Repr

/-- Which of two decimals is taken that are equally near. -/
inductive Tie where
  | even
  | up
deriving DecidableEq, Repr

namespace Decimal

/-- Compares a decimal with a count of units, both taken four times. -/
def compareUnits (d : Decimal) (quarters : Nat) : Ordering :=
  compare (d.digits * Nat.pow 10 d.exponent.toNat * (4 * unitsPerOne))
    (quarters * Nat.pow 10 (-d.exponent).toNat)

/-- Whether a decimal lies among the reals that round to a magnitude. They reach half way to each
neighbour, with the ends if the significand is even; below a power of two the neighbour is at half
the distance. -/
def readsBack (units : Nat) (d : Decimal) : Bool :=
  let s := spacing units
  let narrow := 1 < s && units == Nat.pow 2 52 * s
  let low := compareUnits d (4 * units - (if narrow then s else 2 * s))
  let high := compareUnits d (4 * units + 2 * s)
  let ends := units / s % 2 == 0
  (low == .gt || (ends && low == .eq)) && (high == .lt || (ends && high == .eq))

/-- The least `k` from a start on, within a few steps, such that the magnitude is below 10^k. -/
def scaleFrom (units : Nat) : Nat → Int → Int
  | 0, k => k
  | rounds + 1, k =>
    if units * Nat.pow 10 (-k).toNat < Nat.pow 10 k.toNat * unitsPerOne then k
    else scaleFrom units rounds (k + 1)

/-- The number of digits before the decimal point, negative if zeros follow the point. -/
def scale (units : Nat) : Int :=
  scaleFrom units 5 (((units.log2 : Int) - 1074) * 30103 / 100000 - 1)

/-- The nearer of the two neighbours with `n` digits that reads back. -/
def withDigits (tie : Tie) (units : Nat) (k : Int) (n : Nat) : Option Decimal :=
  let e := k - n
  let num := units * Nat.pow 10 (-e).toNat
  let den := unitsPerOne * Nat.pow 10 e.toNat
  let lower : Decimal := ⟨num / den, e⟩
  let upper : Decimal := ⟨num / den + 1, e⟩
  let nearer :=
    match compare (2 * (num % den)) den with
    | .lt => lower
    | .gt => upper
    | .eq => if tie = .even ∧ lower.digits % 2 = 0 then lower else upper
  match readsBack units lower, readsBack units upper with
  | true, true => some nearer
  | true, false => some lower
  | false, true => some upper
  | false, false => none

/-- Moves trailing zeros of the digits into the exponent. -/
def strip : Nat → Decimal → Decimal
  | 0, d => d
  | rounds + 1, d =>
    if d.digits % 10 = 0 ∧ d.digits ≠ 0 then strip rounds ⟨d.digits / 10, d.exponent + 1⟩ else d

/-- The exact value of a magnitude. -/
def exact (units : Nat) : Decimal := ⟨units * Nat.pow 5 1074, -1074⟩

/-- The shortest decimal that reads back to a magnitude, nearest to it among those. -/
def shortest (tie : Tie) (units : Nat) : Decimal :=
  if units = 0 then ⟨0, 0⟩
  else
    let k := scale units
    let found := (List.range 17).findSome? fun i => withDigits tie units k (i + 1)
    strip 800 (found.getD (exact units))

end Decimal

end Cohort
