import Cohort.Calendar.Date

/-! # Moments: dates with a time of day, in universal time -/

namespace Cohort.Calendar

open Text

/-- A moment: a day, the seconds since its start, and nanoseconds. A leap second is the last second
of its minute with more than a thousand million nanoseconds. -/
structure Moment where
  day : Int
  second : Nat
  nano : Nat
deriving DecidableEq, Repr

namespace Moment

/-! ## Order -/

/-- The start of a day. -/
def ofDate (d : Date) : Moment := ⟨d.dayNumber, 0, 0⟩

/-- Whether a moment lies before another. -/
def before (a b : Moment) : Bool :=
  a.day < b.day ||
    (a.day == b.day && (a.second < b.second || (a.second == b.second && a.nano < b.nano)))

/-! ## Time of day -/

/-- The moment of a time on a date at some seconds east of universal time. The second 60 is a leap
second. -/
def ofParts? (date : Date) (hour minute second nano : Nat) (offset : Int) : Option Moment :=
  if date.isValid && hour < 24 && minute < 60 && second ≤ 60 && offset.natAbs < 86400 then
    let (second, nano) := if second = 60 then (59, nano + 1000000000) else (second, nano)
    let local_ : Int := (hour * 3600 + minute * 60 + second : Nat)
    let total := date.dayNumber * 86400 + local_ - offset
    some ⟨total / 86400, (total % 86400).toNat, nano⟩
  else none

/-- A fraction of a second behind a point, if there is one: nine digits count. -/
def readFraction (s : List Char) : Option (Nat × List Char) :=
  match s with
  | '.' :: rest =>
    let ds := rest.takeWhile Char.isDigit
    let kept := ds.take 9
    if ds.isEmpty then none
    else some (digitsValue kept * Nat.pow 10 (9 - kept.length),
      rest.dropWhile Char.isDigit)
  | _ => some (0, s)

/-- An offset from universal time in seconds: `Z`, or a sign, two digits of hours and two of
minutes. `between` passes what stands between them. -/
def readOffset (between : List Char → Option (List Char)) (s : List Char) :
    Option (Int × List Char) :=
  let behindSign := fun (negative : Bool) (s : List Char) => do
    let (hours, s) ← readDigits 2 2 s
    let s ← between s
    let (minutes, s) ← readDigits 2 2 s
    let seconds : Int := (hours * 3600 + minutes * 60 : Nat)
    if minutes < 60 then some (if negative then -seconds else seconds, s) else none
  match s with
  | c :: rest =>
    if c = 'Z' ∨ c = 'z' then some (0, rest)
    else if c = '+' then behindSign false rest
    else if c = '-' ∨ c = '−' then behindSign true rest
    else none
  | [] => none

/-- The letter or blank between date and time. -/
def readSeparator : List Char → Option (List Char)
  | c :: rest => if c = 'T' ∨ c = 't' ∨ c = ' ' then some rest else none
  | [] => none

/-! ## Reading -/

/-- Reads a text that holds a moment, every number at its full width. -/
def read? (s : String) : Option Moment := do
  let (year, s) ← readDigits 4 4 s.toList
  let s ← readMark '-' s
  let (month, s) ← readDigits 2 2 s
  let s ← readMark '-' s
  let (day, s) ← readDigits 2 2 s
  let s ← readSeparator s
  let (hour, s) ← readDigits 2 2 s
  let s ← readMark ':' s
  let (minute, s) ← readDigits 2 2 s
  let s ← readMark ':' s
  let (second, s) ← readDigits 2 2 s
  let (nano, s) ← readFraction s
  let (offset, s) ← readOffset (readMark ':') s
  if s.isEmpty then ofParts? ⟨year, month, day⟩ hour minute second nano offset else none

/-- An offset from universal time where the hours and minutes may stand apart or together, or the
letters `UTC`. -/
def readLooseOffset (s : List Char) : Option (Int × List Char) :=
  if ((s.take 3).map Char.toUpper) = ['U', 'T', 'C'] then some (0, s.drop 3)
  else readOffset (fun s => some (s.dropWhile fun c => c == ':' || isBlank c)) s

/-- Reads a text that holds a moment, with white space around its parts and numbers as short as they
are. -/
def readLoose? (s : String) : Option Moment := do
  let skip := fun (s : List Char) => s.dropWhile isBlank
  let (year, s) ← readYear s.toList
  let s ← readMark '-' (skip s)
  let (month, s) ← readTwo s
  let s ← readMark '-' (skip s)
  let (day, s) ← readTwo s
  let s ← readSeparator s
  let (hour, s) ← readTwo s
  let s ← readMark ':' (skip s)
  let (minute, s) ← readTwo s
  let s ← readMark ':' (skip s)
  let (second, s) ← readTwo s
  let (nano, s) ← readFraction s
  let (offset, s) ← readLooseOffset (skip s)
  if (skip s).isEmpty then ofParts? ⟨year, month, day⟩ hour minute second nano offset else none

/-! ## Writing -/

/-- A number with zeros in front to a width. -/
def padded (width n : Nat) : List Char :=
  let ds := digitsOf n
  List.replicate (width - ds.length) '0' ++ ds

/-- A year: four digits, with a sign outside the years 0 to 9999. -/
def yearText (y : Int) : List Char :=
  if 0 ≤ y ∧ y ≤ 9999 then padded 4 y.toNat
  else (if y < 0 then '-' else '+') :: padded 4 y.natAbs

/-- The fraction of a second in three, six or nine digits, as few as it takes. -/
def fractionText (nano : Nat) : List Char :=
  if nano = 0 then []
  else if nano % 1000000 = 0 then '.' :: padded 3 (nano / 1000000)
  else if nano % 1000 = 0 then '.' :: padded 6 (nano / 1000)
  else '.' :: padded 9 nano

/-- A moment in full, with what stands for universal time at its end. -/
def text (m : Moment) (zone : String) : String :=
  let date := Date.ofDayNumber m.day
  let second := if m.nano < 1000000000 then m.second % 60 else m.second % 60 + 1
  String.ofList (yearText date.year ++ '-' :: padded 2 date.month ++ '-' :: padded 2 date.day ++
    'T' :: padded 2 (m.second / 3600) ++ ':' :: padded 2 (m.second / 60 % 60) ++
    ':' :: padded 2 second ++ fractionText (m.nano % 1000000000)) ++ zone

end Moment

end Cohort.Calendar
