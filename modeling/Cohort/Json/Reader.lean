import Cohort.Document.Basic
import Cohort.Text.Blank
import Cohort.Text.Digits
import Cohort.Text.Slice

/-! # Reading JSON -/

namespace Cohort.Json

open Text

/-! ## Numbers -/

/-- Takes decimal digits as long as their value fits 64 bits, and returns what is left of them. -/
def takeSignificand : Nat → List Char → Nat × List Char
  | n, [] => (n, [])
  | n, c :: rest =>
    let next := 10 * n + (c.toNat - 48)
    if next < unsignedBound then takeSignificand next rest else (n, c :: rest)

/-- Scales a magnitude by a power of ten, at most 308 places at a time, rounding each time. A result
that is too large is refused. -/
def scaleUnits : Nat → Nat → Int → Option Nat
  | 0, _, _ => some 0
  | rounds + 1, units, exponent =>
    let power := fun (e : Nat) => ((Binary64.ofDecimal? false 1 e).getD default).units
    if units = 0 then some 0
    else if 308 < exponent then none
    else if 0 ≤ exponent then
      let scaled := roundUnits (units * power exponent.toNat) unitsPerOne
      if scaled < unitsOverflow then some scaled else none
    else if -308 ≤ exponent then some (roundUnits (units * unitsPerOne) (power (-exponent).toNat))
    else scaleUnits rounds (roundUnits (units * unitsPerOne) (power 308)) (exponent + 308)

/-- A number with a fraction or an exponent, or too long for an integer. Its digits count as far as
they fit 64 bits; their value is rounded, then scaled. -/
def floatOf? (negative : Bool) (whole fraction : List Char) (exponent : Int) : Option Binary64 :=
  let (n, unread) := takeSignificand 0 whole
  let (n, left) := takeSignificand n fraction
  let taken := fraction.length - left.length
  let start := (Binary64.ofInt n).units
  (scaleUnits 5 start (unread.length - taken + exponent)).map (⟨negative, ·⟩)

/-- A number of digits alone: an integer if it fits 64 bits, signed or not. Negative zero and what
does not fit are floating-point numbers. -/
def wholeOf? (negative : Bool) (whole : List Char) : Option Document :=
  let n := digitsValue whole
  if negative then
    if n = 0 then some (.float (.finite ⟨true, 0⟩))
    else if n ≤ signedBound then some (.int (-n))
    else (floatOf? true whole [] 0).map fun x => .float (.finite x)
  else if n < unsignedBound then some (.int n)
  else (floatOf? false whole [] 0).map fun x => .float (.finite x)

/-- The exponent behind an `e`, with its sign; empty digits are refused. -/
def readExponent (s : List Char) : Option (Int × List Char) :=
  let (negative, s) := match s with
    | '+' :: rest => (false, rest)
    | '-' :: rest => (true, rest)
    | s => (false, s)
  let ds := s.takeWhile Char.isDigit
  let n := digitsValue ds
  if ds.isEmpty then none else some (if negative then -n else n, s.dropWhile Char.isDigit)

/-- Reads a number behind its sign. A leading zero stands alone. -/
def readNumber (negative : Bool) (s : List Char) : Option (Document × List Char) :=
  let whole := s.takeWhile Char.isDigit
  let rest := s.dropWhile Char.isDigit
  if whole.isEmpty ∨ (whole.head? = some '0' ∧ 1 < whole.length) then none
  else
    let finish := fun (fraction : List Char) (e : Int) (rest : List Char) =>
      (floatOf? negative whole fraction e).map fun x => (Document.float (.finite x), rest)
    match rest with
    | '.' :: s =>
      let fraction := s.takeWhile Char.isDigit
      if fraction.isEmpty then none
      else match s.dropWhile Char.isDigit with
        | 'e' :: s | 'E' :: s => do
          let (e, rest) ← readExponent s
          finish fraction e rest
        | rest => finish fraction 0 rest
    | 'e' :: s | 'E' :: s => do
      let (e, rest) ← readExponent s
      finish [] e rest
    | rest => (wholeOf? negative whole).map (·, rest)

/-! ## Texts -/

/-- Four hexadecimal digits. -/
def readUnit : List Char → Option (Nat × List Char)
  | a :: b :: c :: d :: rest => (hexValue? [a, b, c, d]).map (·, rest)
  | _ => none

/-- The character of an escape `\u`: one unit, or a pair of surrogates. -/
def readUnicode (s : List Char) : Option (Char × List Char) := do
  let (n, rest) ← readUnit s
  if n < 0xD800 ∨ 0xE000 ≤ n then some (Char.ofNat n, rest)
  else if 0xDC00 ≤ n then none
  else match rest with
    | '\\' :: 'u' :: rest => do
      let (m, rest) ← readUnit rest
      if 0xDC00 ≤ m ∧ m < 0xE000 then
        some (Char.ofNat (0x10000 + (n - 0xD800) * 0x400 + (m - 0xDC00)), rest)
      else none
    | _ => none

/-- The character behind a backslash. -/
def readEscape : List Char → Option (Char × List Char)
  | '"' :: rest => some ('"', rest)
  | '\\' :: rest => some ('\\', rest)
  | '/' :: rest => some ('/', rest)
  | 'b' :: rest => some ('\x08', rest)
  | 'f' :: rest => some ('\x0c', rest)
  | 'n' :: rest => some ('\n', rest)
  | 'r' :: rest => some ('\r', rest)
  | 't' :: rest => some ('\t', rest)
  | 'u' :: rest => readUnicode rest
  | _ => none

/-- Reads a text behind its opening quote; `done` is what was read, in reverse. -/
def readText : Nat → List Char → List Char → Option (String × List Char)
  | 0, _, _ => none
  | _ + 1, _, [] => none
  | fuel + 1, done, c :: rest =>
    if c = '"' then some (String.ofList done.reverse, rest)
    else if c = '\\' then do
      let (c, rest) ← readEscape rest
      readText fuel (c :: done) rest
    else if c.toNat < 0x20 then none
    else readText fuel (c :: done) rest

/-! ## Documents -/

mutual

/-- Reads a document; `depth` is how many arrays and objects may still be opened. -/
def readDocument : Nat → Nat → List Char → Option (Document × List Char)
  | 0, _, _ => none
  | fuel + 1, depth, s =>
    match skipSpace s with
    | 'n' :: rest => (dropPrefix? ['u', 'l', 'l'] rest).map (.null, ·)
    | 't' :: rest => (dropPrefix? ['r', 'u', 'e'] rest).map (.bool true, ·)
    | 'f' :: rest => (dropPrefix? ['a', 'l', 's', 'e'] rest).map (.bool false, ·)
    | '"' :: rest => (readText (rest.length + 1) [] rest).map fun (t, rest) => (.str t, rest)
    | '-' :: rest => readNumber true rest
    | '[' :: rest =>
      match depth with
      | 0 => none
      | depth + 1 =>
        match skipSpace rest with
        | ']' :: rest => some (.arr [], rest)
        | rest => (readItems fuel depth rest).map fun (items, rest) => (.arr items, rest)
    | '\x7b' :: rest =>
      match depth with
      | 0 => none
      | depth + 1 =>
        match skipSpace rest with
        | '\x7d' :: rest => some (.obj [], rest)
        | rest => (readFields fuel depth rest).map fun (fields, rest) => (.obj fields, rest)
    | rest => readNumber false rest

/-- Reads the items of an array up to its closing bracket. -/
def readItems : Nat → Nat → List Char → Option (List Document × List Char)
  | 0, _, _ => none
  | fuel + 1, depth, s => do
    let (d, rest) ← readDocument fuel depth s
    match skipSpace rest with
    | ',' :: rest => do
      let (items, rest) ← readItems fuel depth rest
      some (d :: items, rest)
    | ']' :: rest => some ([d], rest)
    | _ => none

/-- Reads the fields of an object up to its closing brace. -/
def readFields : Nat → Nat → List Char → Option (List (String × Document) × List Char)
  | 0, _, _ => none
  | fuel + 1, depth, s => do
    match skipSpace s with
    | '"' :: rest => do
      let (name, rest) ← readText (rest.length + 1) [] rest
      match skipSpace rest with
      | ':' :: rest => do
        let (d, rest) ← readDocument fuel depth rest
        match skipSpace rest with
        | ',' :: rest => do
          let (fields, rest) ← readFields fuel depth rest
          some ((name, d) :: fields, rest)
        | '\x7d' :: rest => some ([(name, d)], rest)
        | _ => none
      | _ => none
    | _ => none

end

/-- Reads a text that holds one document, nested at most 127 deep. -/
def read? (text : String) : Option Document :=
  let s := text.toList
  match readDocument (2 * s.length + 2) 127 s with
  | some (d, rest) => if (skipSpace rest).isEmpty then some d else none
  | none => none

end Cohort.Json
