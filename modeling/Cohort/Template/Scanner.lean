import Cohort.Template.Fault
import Cohort.Text.Blank
import Cohort.Text.Slice

/-! # Splitting a source into text and actions -/

namespace Cohort.Template

open Text

/-- A piece of a source: text, or the body of an action with the line it starts on. -/
inductive Piece where
  | text (s : String)
  | action (body : List Char) (line : Nat)
deriving DecidableEq, Repr

/-! ## The ends of an action -/

/-- The number of line breaks. -/
def lineBreaks (s : List Char) : Nat := s.count '\n'

/-- The rest behind a dash and white space: the mark that trims the text before an action. The white
space is kept. -/
def leftTrim? : List Char → Option (List Char)
  | '-' :: c :: rest => if isBlank c then some (c :: rest) else none
  | _ => none

/-- The body without a dash behind white space: the mark that trims the text after an action. The
white space is kept. -/
def rightTrim? (body : List Char) : Option (List Char) :=
  match body.reverse with
  | '-' :: c :: rest => if isBlank c then some (c :: rest).reverse else none
  | _ => none

/-- Finds the braces that close an action, outside quotes. `quote` is the quote under way; a
backslash inside quotes other than backticks passes over the next character. -/
def closeFrom : Option Char → List Char → Option (List Char × List Char)
  | _, [] => none
  | some q, c :: rest =>
    if c = q then (closeFrom none rest).map fun (b, r) => (c :: b, r)
    else if c = '\\' ∧ q ≠ '`' then
      match rest with
      | [] => none
      | d :: rest => (closeFrom (some q) rest).map fun (b, r) => (c :: d :: b, r)
    else (closeFrom (some q) rest).map fun (b, r) => (c :: b, r)
  | none, c :: rest =>
    if c = '\x7d' ∧ rest.head? = some '\x7d' then some ([], rest.tail)
    else if c = '"' ∨ c = '\'' ∨ c = '`' then
      (closeFrom (some c) rest).map fun (b, r) => (c :: b, r)
    else (closeFrom none rest).map fun (b, r) => (c :: b, r)

/-- Splits what follows the opening braces into the body of the action and the rest of the source.
Nothing inside a comment closes the action. -/
def close? (s : List Char) : Option (List Char × List Char) :=
  match dropPrefix? ['/', '*'] (s.dropWhile isBlank) with
  | none => closeFrom none s
  | some _ =>
    match cut? ['*', '/'] s with
    | none => none
    | some (before, after) =>
      (closeFrom none after).map fun (b, r) => (before ++ '*' :: '/' :: b, r)

/-! ## Scanning -/

/-- A piece of text, unless it is empty. -/
def textPiece (s : List Char) : List Piece :=
  if s.isEmpty then [] else [.text (String.ofList s)]

/-- Scans a source from a line on. `trimmed` says that the text up to the next action loses its
leading white space. -/
def scanFrom : Nat → Nat → Bool → List Char → Except Fault (List Piece)
  | 0, _, _, _ => .ok []
  | fuel + 1, line, trimmed, s =>
    let lead := fun (t : List Char) => if trimmed then t.dropWhile isBlank else t
    match cut? ['\x7b', '\x7b'] s with
    | none => .ok (textPiece (lead s))
    | some (before, after) =>
      let here := line + lineBreaks before
      let (text, inner) := match leftTrim? after with
        | some inner => (dropEndWhile isBlank (lead before), inner)
        | none => (lead before, after)
      match close? inner with
      | none => .error (.parse here .unclosedAction)
      | some (raw, rest) =>
        let next := here + lineBreaks raw
        let (body, trimNext) := match rightTrim? raw with
          | some body => (body, true)
          | none => (raw, false)
        let body := trim body
        match dropPrefix? ['/', '*'] body with
        | some comment =>
          if (dropSuffix? ['*', '/'] comment).isSome then do
            let pieces ← scanFrom fuel next trimNext rest
            return textPiece text ++ pieces
          else .error (.parse here .unclosedComment)
        | none =>
          if body.isEmpty then .error (.parse here .emptyAction)
          else do
            let pieces ← scanFrom fuel next trimNext rest
            return textPiece text ++ .action body here :: pieces

/-- The pieces of a source. -/
def scan (source : String) : Except Fault (List Piece) :=
  let s := source.toList
  scanFrom (s.length + 1) 1 false s

end Cohort.Template
