import Cohort.Toml.Scalar
import Cohort.Toml.Table
import Cohort.Toml.Text

/-! # Reading TOML -/

namespace Cohort.Toml

open Text

/-! ## Values -/

mutual

/-- Reads a value; `depth` is how many arrays and inline tables may still be opened. -/
def readValue : Nat → Nat → List Char → Option (Document × List Char)
  | 0, _, _ => none
  | fuel + 1, depth, s =>
    match s with
    | [] => none
    | c :: rest =>
      if c = '"' ∨ c = '\'' then (readText s).map fun (t, rest) => (.str t, rest)
      else if c = 't' then (dropPrefix? ['r', 'u', 'e'] rest).map (.bool true, ·)
      else if c = 'f' then (dropPrefix? ['a', 'l', 's', 'e'] rest).map (.bool false, ·)
      else if c = '[' then
        match depth with
        | 0 => none
        | depth + 1 => (readItems fuel depth rest).map fun (items, rest) => (.arr items, rest)
      else if c = '\x7b' then
        match depth with
        | 0 => none
        | depth + 1 => do
          match skipGap rest with
          | '\x7d' :: rest => return (.obj [], rest)
          | rest => do
            let (entries, rest) ← readEntries fuel depth [] rest
            return (.obj (fieldsOf entries), rest)
      else readNumeral s

/-- Reads the items of an array up to its closing bracket. A comma may stand behind the last one. -/
def readItems : Nat → Nat → List Char → Option (List Document × List Char)
  | 0, _, _ => none
  | fuel + 1, depth, s => do
    match ← skipLines s.length s with
    | ']' :: rest => return ([], rest)
    | s => do
      let (d, rest) ← readValue fuel depth s
      match ← skipLines rest.length rest with
      | ',' :: rest => do
        let (items, rest) ← readItems fuel depth rest
        return (d :: items, rest)
      | ']' :: rest => return ([d], rest)
      | _ => none

/-- Reads the entries of an inline table up to its closing brace. -/
def readEntries : Nat → Nat → Entries → List Char → Option (Entries × List Char)
  | 0, _, _, _ => none
  | fuel + 1, depth, entries, s => do
    let ((path, key), rest) ← readKey s
    let rest ← Calendar.readMark '=' rest
    let (d, rest) ← readValue fuel depth (skipGap rest)
    let entries ← entries.addValue path key d .declared
    match skipGap rest with
    | ',' :: rest => readEntries fuel depth entries rest
    | '\x7d' :: rest => return (entries, rest)
    | _ => none

end

/-! ## Lines -/

/-- What a line says. -/
inductive Line where
  | table (path : List String) (key : String)
  | item (path : List String) (key : String)
  | entry (path : List String) (key : String) (d : Document)

/-- Reads a line that says something, up to its end. -/
def readStatement (s : List Char) : Option (Line × List Char) :=
  match s with
  | '[' :: '[' :: rest => do
    let ((path, key), rest) ← readKey rest
    return (.item path key, ← endLine? (← dropPrefix? [']', ']'] rest))
  | '[' :: rest => do
    let ((path, key), rest) ← readKey rest
    return (.table path key, ← endLine? (← dropPrefix? [']'] rest))
  | s => do
    let ((path, key), rest) ← readKey s
    let rest ← Calendar.readMark '=' rest
    let (d, rest) ← readValue (2 * rest.length + 2) 79 (skipGap rest)
    return (.entry path key d, ← endLine? rest)

/-- Reads the lines of a document. -/
def readLines : Nat → List Char → Option (List Line)
  | 0, _ => none
  | fuel + 1, s =>
    match skipGap s with
    | [] => some []
    | c :: rest =>
      if c = '#' ∨ c = '\n' ∨ c = '\r' then do
        readLines fuel (← endLine? (c :: rest))
      else do
        let (line, rest) ← readStatement (c :: rest)
        return line :: (← readLines fuel rest)

/-- Adds what a line says; the entries of a line go to the table declared last. -/
def addLine (state : List String × Entries) (line : Line) : Option (List String × Entries) :=
  let (current, root) := state
  match line with
  | .table path key => (root.addTable path key).map (path ++ [key], ·)
  | .item path key => (root.addItem path key).map (path ++ [key], ·)
  | .entry path key d =>
    (root.update false (Entries.addValue path key d) current .declared).map (current, ·)

/-- Reads a text that holds a TOML document. A byte order mark at its start does not count. -/
def read? (text : String) : Option Document := do
  let s := match text.toList with
    | '\uFEFF' :: rest => rest
    | s => s
  let lines ← readLines (s.length + 1) s
  let (_, root) ← lines.foldlM addLine ([], [])
  return .obj (fieldsOf root)

end Cohort.Toml
