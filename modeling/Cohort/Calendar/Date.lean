import Cohort.Number.Basic
import Cohort.Text.Blank
import Cohort.Text.Digits

/-! # Dates of the Gregorian calendar -/

namespace Cohort.Calendar

open Text

/-! ## Days -/

/-- A date, with a year zero before the year one. -/
structure Date where
  year : Int
  month : Nat
  day : Nat
deriving DecidableEq, Repr

/-- Whether a year has a 29th of February. -/
def isLeapYear (y : Int) : Bool :=
  y % 4 == 0 && (y % 100 != 0 || y % 400 == 0)

/-- The number of days of a month. -/
def daysInMonth (y : Int) (m : Nat) : Nat :=
  match m with
  | 1 | 3 | 5 | 7 | 8 | 10 | 12 => 31
  | 4 | 6 | 9 | 11 => 30
  | 2 => if isLeapYear y then 29 else 28
  | _ => 0

namespace Date

/-- Whether a date exists, and its year is in the range that is kept. -/
def isValid (d : Date) : Bool :=
  -262143 ≤ d.year && d.year ≤ 262142 && 1 ≤ d.day && d.day ≤ daysInMonth d.year d.month

/-- The number of days from the first of March of the year zero. -/
def dayNumber (d : Date) : Int :=
  let y : Int := if d.month ≤ 2 then d.year - 1 else d.year
  let m : Nat := if d.month ≤ 2 then d.month + 9 else d.month - 3
  365 * y + y / 4 - y / 100 + y / 400 + ((153 * m + 2) / 5 + (d.day - 1) : Nat)

/-- The date of a day number. -/
def ofDayNumber (n : Int) : Date :=
  let era := n / 146097
  let inEra := (n % 146097).toNat
  let y := (inEra - inEra / 1460 + inEra / 36524 - inEra / 146096) / 365
  let inYear := inEra - (365 * y + y / 4 - y / 100)
  let m := (5 * inYear + 2) / 153
  let day := inYear - (153 * m + 2) / 5 + 1
  let month := if m < 10 then m + 3 else m - 9
  let year := era * 400 + y + (if month ≤ 2 then 1 else 0)
  ⟨year, month, day⟩

end Date

/-! ## Reading -/

/-- A number of `least` to `most` decimal digits. -/
def readDigits (least most : Nat) (s : List Char) : Option (Nat × List Char) :=
  let ds := (s.take most).takeWhile Char.isDigit
  if ds.length < least then none
  else some (digitsValue ds, s.drop ds.length)

/-- A given character. -/
def readMark (mark : Char) : List Char → Option (List Char)
  | c :: rest => if c = mark then some rest else none
  | [] => none

/-- A year behind white space: at most four digits, or a sign and any number of them. -/
def readYear (s : List Char) : Option (Int × List Char) :=
  match s.dropWhile isBlank with
  | '-' :: rest => (readDigits 1 rest.length rest).map fun (n, rest) => (-(n : Int), rest)
  | '+' :: rest => (readDigits 1 rest.length rest).map fun (n, rest) => ((n : Int), rest)
  | rest => (readDigits 1 4 rest).map fun (n, rest) => ((n : Int), rest)

/-- A number of one or two digits behind white space. -/
def readTwo (s : List Char) : Option (Nat × List Char) :=
  readDigits 1 2 (s.dropWhile isBlank)

/-- Reads a text that holds a date, its parts joined by dashes. -/
def Date.read? (s : String) : Option Date := do
  let (year, s) ← readYear s.toList
  let s ← readMark '-' s
  let (month, s) ← readTwo s
  let s ← readMark '-' s
  let (day, s) ← readTwo s
  let d : Date := ⟨year, month, day⟩
  if s.isEmpty && d.isValid then some d else none

end Cohort.Calendar
