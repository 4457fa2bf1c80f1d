import Cohort.Number.Shortest

/-! # Numbers and their text -/

namespace Cohort

/-- The first natural number that signed integers of 64 bits do not reach. -/
def signedBound : Nat := Nat.pow 2 63

/-- The first natural number that unsigned integers of 64 bits do not reach. -/
def unsignedBound : Nat := Nat.pow 2 64

/-- A number as data holds it: an integer between -2^63 and 2^64 - 1, or a floating-point number. -/
inductive Number where
  | int (n : Int)
  | float (x : Binary64)
deriving DecidableEq, Repr

/-! ## Laying out digits -/

/-- The decimal digits of a natural number. -/
def digitsOf (n : Nat) : List Char := Nat.toDigits 10 n

/-- The digits of an integer behind its sign. -/
def intText (n : Int) : String :=
  if n < 0 then String.ofList ('-' :: digitsOf n.natAbs) else String.ofList (digitsOf n.natAbs)

namespace Decimal

/-- Positional notation. An integer gets no point. -/
def positional (d : Decimal) : List Char :=
  let ds := digitsOf d.digits
  let point : Int := ds.length + d.exponent
  if 0 ≤ d.exponent then ds ++ List.replicate d.exponent.toNat '0'
  else if 0 < point then ds.take point.toNat ++ '.' :: ds.drop point.toNat
  else '0' :: '.' :: (List.replicate (-point).toNat '0' ++ ds)

/-- Scientific notation: one digit before the point, and a signed exponent. -/
def scientific (d : Decimal) : List Char :=
  let ds := digitsOf d.digits
  let e : Int := ds.length + d.exponent - 1
  let mantissa := if ds.length = 1 then ds else ds.take 1 ++ '.' :: ds.drop 1
  mantissa ++ 'e' :: (if e < 0 then '-' else '+') :: digitsOf e.natAbs

/-- The notation of documents: positional from 10^-5 up to 10^16, with a point and at least one digit
after it, otherwise scientific. -/
def inDocument (d : Decimal) : List Char :=
  if d.digits = 0 then ['0', '.', '0']
  else
    let point : Int := (digitsOf d.digits).length + d.exponent
    if -5 < point ∧ point ≤ 16 then
      if 0 ≤ d.exponent then d.positional ++ ['.', '0'] else d.positional
    else d.scientific

end Decimal

namespace Binary64

/-- A number in a document. -/
def documentText (x : Binary64) : String :=
  let digits := (Decimal.shortest .even x.units).inDocument
  String.ofList (if x.negative then '-' :: digits else digits)

/-- A number in plain text: never an exponent, and no point for an integer. -/
def plainText (x : Binary64) : String :=
  let digits := (Decimal.shortest .up x.units).positional
  String.ofList (if x.negative then '-' :: digits else digits)

end Binary64

/-- A bound in plain text. -/
def Extended.plainText : Extended → String
  | .finite x => x.plainText
  | .infinity negative => if negative then "-inf" else "inf"
  | .undefined => "NaN"

namespace Number

/-- A number in a document. -/
def documentText : Number → String
  | .int n => intText n
  | .float x => x.documentText

/-- A number in plain text. A floating-point integer below 10^15 is written as an integer, so that
zero loses its sign. -/
def plainText : Number → String
  | .int n => intText n
  | .float x =>
    if x.isWhole && x.units < Nat.pow 10 15 * unitsPerOne then intText x.truncate else x.plainText

/-! ## Value and order -/

/-- The nearest floating-point number. -/
def toBinary64 : Number → Binary64
  | .int n => .ofInt n
  | .float x => x

/-- The value of the nearest floating-point number, in its units. -/
def toUnits (a : Number) : Int := a.toBinary64.toUnits

/-- Whether two numbers are equal: integers as integers, otherwise as floating-point numbers. -/
def sameValue : Number → Number → Bool
  | .int a, .int b => a == b
  | a, b => a.toUnits == b.toUnits

/-- Compares the nearest floating-point numbers. -/
def order (a b : Number) : Ordering := compare a.toUnits b.toUnits

end Number

end Cohort
