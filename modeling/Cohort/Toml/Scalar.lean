import Cohort.Calendar.Date
import Cohort.Document.Basic
import Cohort.Text.Digits
import Cohort.Text.Slice

/-! # Numbers, dates and times of TOML -/

namespace Cohort.Toml

open Text Calendar

/-! ## Digits -/

/-- Reads digits of a kind with single underscores between them. -/
def readDigitsFrom (isDigit : Char → Bool) : List Char → Option (List Char × List Char)
  | [] => none
  | [c] => if isDigit c then some ([c], []) else none
  | c :: d :: rest =>
    if !isDigit c then none
    else if d = '_' then (readDigitsFrom isDigit rest).map fun (ds, rest) => (c :: ds, rest)
    else if isDigit d then
      (readDigitsFrom isDigit (d :: rest)).map fun (ds, rest) => (c :: ds, rest)
    else some ([c], d :: rest)

/-- Reads a sign, which may be left out: whether it is negative. -/
def readSign : List Char → Bool × List Char
  | '-' :: rest => (true, rest)
  | '+' :: rest => (false, rest)
  | s => (false, s)

/-- Reads the digits of an integer: a zero alone, or digits that begin with another one. -/
def readWhole : List Char → Option (List Char × List Char)
  | '0' :: rest => some (['0'], rest)
  | s => readDigitsFrom Char.isDigit s

/-! ## Integers -/

/-- An integer of 64 bits. -/
def integer? (n : Int) : Option Document :=
  if -(signedBound : Int) ≤ n ∧ n < signedBound then some (.int n) else none

/-- The base that a letter behind a zero stands for. -/
def baseOf? : Char → Option Nat
  | 'x' => some 16
  | 'o' => some 8
  | 'b' => some 2
  | _ => none

/-- Reads an integer in another base behind its prefix. -/
def readInBase (base : Nat) (s : List Char) : Option (Document × List Char) := do
  let (ds, rest) ← readDigitsFrom (fun c => (hexDigit? c).any fun d => decide (d < base)) s
  let n := ds.foldl (fun (n : Nat) c => base * n + (hexDigit? c).getD 0) 0
  return (← integer? n, rest)

/-- Reads an integer. -/
def readInteger (s : List Char) : Option (Document × List Char) :=
  let decimal := do
    let (negative, s) := readSign s
    let (ds, rest) ← readWhole s
    let n : Int := digitsValue ds
    return (← integer? (if negative then -n else n), rest)
  match s with
  | '0' :: c :: rest =>
    match baseOf? c with
    | some base => readInBase base rest
    | none => decimal
  | _ => decimal

/-! ## Floating-point numbers -/

/-- A number too large to be finite is refused, unless it is negative. -/
def floatOf? (negative : Bool) (digits : Nat) (exponent : Int) : Option Extended :=
  match Binary64.ofDecimal? negative digits exponent with
  | some x => some (.finite x)
  | none => if negative then some (.infinity true) else none

/-- Reads an exponent behind its letter, if there is one here. -/
def readExponent? : List Char → Option (Option (Int × List Char))
  | c :: s =>
    if c = 'e' ∨ c = 'E' then do
      let (negative, s) := readSign s
      let (ds, rest) ← readDigitsFrom Char.isDigit s
      let e : Int := digitsValue ds
      return some (if negative then -e else e, rest)
    else some none
  | [] => some none

/-- Reads an infinity, or what is no number. -/
def readSpecial (s : List Char) : Option (Extended × List Char) :=
  let (negative, s) := readSign s
  match dropPrefix? ['i', 'n', 'f'] s, dropPrefix? ['n', 'a', 'n'] s with
  | some rest, _ => some (.infinity negative, rest)
  | none, some rest => some (.undefined, rest)
  | none, none => none

/-- Reads a number with a fraction or an exponent. Where there is neither, it is none (`some none`);
where one is broken off, the text is refused. -/
def readFloat? (s : List Char) : Option (Option (Extended × List Char)) :=
  let (negative, digits) := readSign s
  match readWhole digits with
  | none => some none
  | some (whole, rest) => do
    match rest with
    | '.' :: rest => do
      let (fraction, rest) ← readDigitsFrom Char.isDigit rest
      let (e, rest) := (← readExponent? rest).getD (0, rest)
      let x ← floatOf? negative (digitsValue (whole ++ fraction)) (e - fraction.length)
      return some (x, rest)
    | rest =>
      match ← readExponent? rest with
      | none => return none
      | some (e, rest) => do
        let x ← floatOf? negative (digitsValue whole) e
        return some (x, rest)

/-! ## Dates and times -/

/-- Reads a date; its text is as it was written. -/
def readDate (s : List Char) : Option (List Char × List Char) := do
  let (year, rest) ← readDigits 4 4 s
  let rest ← readMark '-' rest
  let (month, rest) ← readDigits 2 2 rest
  let rest ← readMark '-' rest
  let (day, rest) ← readDigits 2 2 rest
  if 1 ≤ day ∧ day ≤ daysInMonth year month then some (s.take 10, rest) else none

/-- Reads a fraction of a second behind its point: nine digits count, and zeros at the end do not
show. -/
def readSecondFraction : List Char → Option (List Char × List Char)
  | '.' :: rest =>
    let ds := rest.takeWhile Char.isDigit
    let shown := ((ds.take 9).reverse.dropWhile (· == '0')).reverse
    if ds.isEmpty then none
    else some (if shown.isEmpty then [] else '.' :: shown, rest.drop ds.length)
  | s => some ([], s)

/-- Reads a time of day. The second 60 is a leap second. -/
def readTime (s : List Char) : Option (List Char × List Char) := do
  let (hour, rest) ← readDigits 2 2 s
  let rest ← readMark ':' rest
  let (minute, rest) ← readDigits 2 2 rest
  let rest ← readMark ':' rest
  let (second, rest) ← readDigits 2 2 rest
  let (fraction, rest) ← readSecondFraction rest
  if hour < 24 ∧ minute < 60 ∧ second ≤ 60 then some (s.take 8 ++ fraction, rest) else none

/-- Reads an offset from universal time, if there is one here. No offset at all is written with a
plus sign. -/
def readZone (s : List Char) : Option (List Char × List Char) :=
  match s with
  | c :: rest =>
    if c = 'Z' ∨ c = 'z' then some (['Z'], rest)
    else if c = '+' ∨ c = '-' then do
      let (hour, after) ← readDigits 2 2 rest
      let after ← readMark ':' after
      let (minute, after) ← readDigits 2 2 after
      let sign := if hour = 0 ∧ minute = 0 then '+' else c
      if hour < 24 ∧ minute < 60 then some (sign :: rest.take 5, after) else none
    else some ([], s)
  | [] => some ([], s)

/-- Reads a date, a time, or both with or without an offset. -/
def readMoment (s : List Char) : Option (List Char × List Char) :=
  match readDate s with
  | none => readTime s
  | some (date, rest) =>
    match rest with
    | c :: after =>
      if c = 'T' ∨ c = 't' ∨ c = ' ' then
        match readTime after with
        | none => some (date, rest)
        | some (time, rest) => (readZone rest).map fun (zone, rest) => (date ++ 'T' :: time ++ zone, rest)
      else some (date, rest)
    | [] => some (date, rest)

/-- A date or time as a document: its text, marked by the name of its field. -/
def momentDocument (text : List Char) : Document :=
  .obj [("$__toml_private_datetime", .str (String.ofList text))]

/-! ## Scalars -/

/-- Reads what begins with a sign or a digit. -/
def readNumeral (s : List Char) : Option (Document × List Char) :=
  match readMoment s with
  | some (text, rest) => some (momentDocument text, rest)
  | none =>
    match readSpecial s with
    | some (x, rest) => some (.float x, rest)
    | none => do
      match ← readFloat? s with
      | some (x, rest) => return (.float x, rest)
      | none => readInteger s

end Cohort.Toml
