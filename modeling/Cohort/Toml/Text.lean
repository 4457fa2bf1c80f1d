import Cohort.Text.Digits
import Cohort.Text.Slice

/-! # Texts, keys and blanks of TOML -/

namespace Cohort.Toml

open Text

/-! ## Blanks -/

/-- Characters that may stand anywhere on a line: no control characters except the tab. -/
def isPlain (c : Char) : Bool :=
  c == '\t' || (0x20 ≤ c.toNat && c.toNat != 0x7F)

/-- Spaces and tabs. -/
def isGap (c : Char) : Bool := c == ' ' || c == '\t'

/-- The rest behind spaces and tabs. -/
def skipGap (s : List Char) : List Char := s.dropWhile isGap

/-- The rest behind the end of a line. -/
def newline? : List Char → Option (List Char)
  | '\n' :: rest => some rest
  | '\r' :: '\n' :: rest => some rest
  | _ => none

/-- The rest behind a comment, if one is here. -/
def skipComment : List Char → List Char
  | '#' :: rest => rest.dropWhile isPlain
  | s => s

/-- The rest behind what may follow on a line: a gap, a comment, and the end of the line or of the
document. -/
def endLine? (s : List Char) : Option (List Char) :=
  let rest := skipComment (skipGap s)
  if rest.isEmpty then some [] else newline? rest

/-- The rest behind gaps, ends of lines and comments, which end with their line. -/
def skipLines : Nat → List Char → Option (List Char)
  | 0, s => some s
  | rounds + 1, s =>
    match skipGap s with
    | '#' :: rest => do
      skipLines rounds (← newline? (rest.dropWhile isPlain))
    | s =>
      match newline? s with
      | some rest => skipLines rounds rest
      | none => some s

/-! ## Escapes -/

/-- The character of a code point in hexadecimal digits of a fixed number. -/
def readCodePoint (width : Nat) (s : List Char) : Option (Char × List Char) := do
  let ds := s.take width
  let n ← hexValue? ds
  if ds.length = width ∧ n.isValidChar then some (Char.ofNat n, s.drop width) else none

/-- The character behind a backslash. -/
def readEscape : List Char → Option (Char × List Char)
  | 'b' :: rest => some ('\x08', rest)
  | 't' :: rest => some ('\t', rest)
  | 'n' :: rest => some ('\n', rest)
  | 'f' :: rest => some ('\x0c', rest)
  | 'r' :: rest => some ('\r', rest)
  | '"' :: rest => some ('"', rest)
  | '\\' :: rest => some ('\\', rest)
  | 'u' :: rest => readCodePoint 4 rest
  | 'U' :: rest => readCodePoint 8 rest
  | _ => none

/-! ## Texts -/

/-- Reads a text on one line behind its quote; `done` is what was read, in reverse. Only double
quotes admit escapes. -/
def readLine (quote : Char) : Nat → List Char → List Char → Option (String × List Char)
  | 0, _, _ => none
  | _ + 1, _, [] => none
  | fuel + 1, done, c :: rest =>
    if c = quote then some (String.ofList done.reverse, rest)
    else if c = '\\' ∧ quote = '"' then do
      let (c, rest) ← readEscape rest
      readLine quote fuel (c :: done) rest
    else if isPlain c then readLine quote fuel (c :: done) rest
    else none

/-- The rest behind gaps and ends of lines. -/
def skipBreaks : Nat → List Char → List Char
  | 0, s => s
  | rounds + 1, s =>
    match newline? (skipGap s) with
    | some rest => skipBreaks rounds rest
    | none => skipGap s

/-- Reads a text on several lines behind its three quotes. One or two quotes may stand inside or
before the three at the end; a backslash at the end of a line takes the line break and the blanks
behind it away. -/
def readBlock (quote : Char) : Nat → List Char → List Char → Option (String × List Char)
  | 0, _, _ => none
  | _ + 1, _, [] => none
  | fuel + 1, done, c :: rest =>
    if c = quote then
      let more := (rest.takeWhile (· == quote)).length
      let rest := rest.drop more
      if more < 2 then readBlock quote fuel (List.replicate (more + 1) quote ++ done) rest
      else if more ≤ 4 then
        some (String.ofList (List.replicate (more - 2) quote ++ done).reverse, rest)
      else none
    else if c = '\\' ∧ quote = '"' then
      match newline? (skipGap rest) with
      | some rest => readBlock quote fuel done (skipBreaks rest.length rest)
      | none => do
        let (c, rest) ← readEscape rest
        readBlock quote fuel (c :: done) rest
    else
      match newline? (c :: rest) with
      | some rest => readBlock quote fuel ('\n' :: done) rest
      | none => if isPlain c then readBlock quote fuel (c :: done) rest else none

/-- Reads a text of either kind. A line break right behind three quotes does not count. -/
def readText : List Char → Option (String × List Char)
  | [] => none
  | quote :: rest =>
    if quote = '"' ∨ quote = '\'' then
      match dropPrefix? [quote, quote] rest with
      | some inner =>
        readBlock quote (rest.length + 1) [] ((newline? inner).getD inner)
      | none => readLine quote (rest.length + 1) [] rest
    else none

/-! ## Keys -/

/-- Characters of a key without quotes. -/
def isKeyChar (c : Char) : Bool :=
  c.isAlphanum || c == '_' || c == '-'

/-- Reads a part of a key: letters, or a text on one line. -/
def readKeyPart : List Char → Option (String × List Char)
  | [] => none
  | c :: rest =>
    if c = '"' ∨ c = '\'' then readLine c (rest.length + 1) [] rest
    else
      let name := (c :: rest).takeWhile isKeyChar
      if name.isEmpty then none else some (String.ofList name, (c :: rest).drop name.length)

/-- Reads the parts of a key, with gaps around them and points between. -/
def readParts : Nat → List Char → Option (List String × List Char)
  | 0, _ => none
  | fuel + 1, s => do
    let (part, rest) ← readKeyPart (skipGap s)
    match skipGap rest with
    | '.' :: rest => do
      let (parts, rest) ← readParts fuel rest
      return (part :: parts, rest)
    | rest => return ([part], rest)

/-- Reads a key of fewer than 80 parts: the path before its last part, and that part. -/
def readKey (s : List Char) : Option ((List String × String) × List Char) := do
  let (parts, rest) ← readParts (s.length + 1) s
  match parts.reverse with
  | [] => none
  | last :: before => if parts.length < 80 then some ((before.reverse, last), rest) else none

end Cohort.Toml
