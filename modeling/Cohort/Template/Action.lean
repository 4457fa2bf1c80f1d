import Cohort.Number.Basic
import Cohort.Template.Syntax
import Cohort.Text.Blank
import Cohort.Text.Digits
import Cohort.Text.Letter
import Cohort.Text.Slice

/-! # The grammar of an action -/

namespace Cohort.Template

open Text

/-! ## Words -/

/-- Characters of a name behind its first. -/
def isNameChar (c : Char) : Bool := isAlphanumeric c || c == '_'

/-- Characters that begin a name. -/
def isNameStart (c : Char) : Bool := isAlphabetic c || c == '_'

/-- Whether a name could go on here. -/
def nameGoesOn (s : List Char) : Bool := s.head?.any isNameChar

/-- The rest behind a word that is not the start of a longer name; white space before it is
passed. -/
def keyword? (word : String) (s : List Char) : Option (List Char) :=
  match dropPrefix? word.toList (skipSpace s) with
  | some rest => if nameGoesOn rest then none else some rest
  | none => none

/-- A name. -/
def name? : List Char → Option (String × List Char)
  | [] => none
  | c :: rest =>
    if isNameStart c then
      some (String.ofList (c :: rest.takeWhile isNameChar), rest.dropWhile isNameChar)
    else none

/-- The name of a function: any but the three constants. -/
def functionName? (s : List Char) : Option (String × List Char) :=
  match name? s with
  | some (n, rest) => if n = "true" ∨ n = "false" ∨ n = "nil" then none else some (n, rest)
  | none => none

/-- A variable: a dollar sign and the characters of a name, if any. -/
def dollarName? : List Char → Option (String × List Char)
  | '$' :: rest =>
    some (String.ofList ('$' :: rest.takeWhile isNameChar), rest.dropWhile isNameChar)
  | _ => none

/-- Fields, each behind a dot, as far as they go. The first argument bounds their number. -/
def fieldPath : Nat → List Char → List String × List Char
  | 0, s => ([], s)
  | fuel + 1, s =>
    match s with
    | '.' :: rest =>
      match name? rest with
      | some (n, rest) =>
        let (path, rest) := fieldPath fuel rest
        (n :: path, rest)
      | none => ([], s)
    | _ => ([], s)

/-- The fields that follow. -/
def path (s : List Char) : List String × List Char := fieldPath s.length s

/-! ## Literals -/

/-- Reads a text in double quotes behind the first; `done` is what was read, in reverse. -/
def quotedText : List Char → List Char → Option (String × List Char)
  | _, [] => none
  | done, '"' :: rest => some (String.ofList done.reverse, rest)
  | done, '\\' :: 'n' :: rest => quotedText ('\n' :: done) rest
  | done, '\\' :: 't' :: rest => quotedText ('\t' :: done) rest
  | done, '\\' :: 'r' :: rest => quotedText ('\r' :: done) rest
  | done, '\\' :: '\\' :: rest => quotedText ('\\' :: done) rest
  | done, '\\' :: '"' :: rest => quotedText ('"' :: done) rest
  | done, '\\' :: '\'' :: rest => quotedText ('\'' :: done) rest
  | done, c :: rest => if c = '\\' then none else quotedText (c :: done) rest

/-- A text in double quotes, with escapes. -/
def string? : List Char → Option (String × List Char)
  | '"' :: rest => quotedText [] rest
  | _ => none

/-- A text in backticks, without escapes. -/
def rawString? : List Char → Option (String × List Char)
  | '`' :: rest =>
    match rest.dropWhile (· != '`') with
    | _ :: after => some (String.ofList (rest.takeWhile (· != '`')), after)
    | [] => none
  | _ => none

/-- A sign and the rest. -/
def sign : List Char → Bool × List Char
  | '+' :: rest => (false, rest)
  | '-' :: rest => (true, rest)
  | s => (false, s)

/-- A point and at least one digit, if they follow. -/
def fraction : List Char → List Char × List Char
  | '.' :: rest =>
    let ds := rest.takeWhile Char.isDigit
    if ds.isEmpty then ([], '.' :: rest) else (ds, rest.dropWhile Char.isDigit)
  | s => ([], s)

/-- An exponent with at least one digit, if it follows. -/
def exponent? (s : List Char) : Option (Int × List Char) :=
  match s with
  | c :: rest =>
    if c = 'e' ∨ c = 'E' then
      let (negative, rest) := sign rest
      let ds := rest.takeWhile Char.isDigit
      let n := digitsValue ds
      if ds.isEmpty then none else some (if negative then -n else n, rest.dropWhile Char.isDigit)
    else none
  | [] => none

/-- The number that a literal stands for: an integer if it is written as one and fits 64 bits with a
sign, otherwise the nearest floating-point number. -/
def literalNumber? (negative : Bool) (whole fraction : List Char) (exponent : Option Int) :
    Option Number :=
  let n := digitsValue whole
  let value : Int := if negative then -n else n
  if fraction.isEmpty ∧ exponent = none ∧ -(signedBound : Int) ≤ value ∧ value < signedBound then
    some (.int value)
  else
    (Binary64.ofDecimal? negative (digitsValue (whole ++ fraction))
      (exponent.getD 0 - fraction.length)).map .float

/-- A number that no name goes on from. -/
def number? (s : List Char) : Option (Number × List Char) :=
  let (negative, rest) := sign s
  let whole := rest.takeWhile Char.isDigit
  if whole.isEmpty then none
  else
    let (frac, rest) := fraction (rest.dropWhile Char.isDigit)
    let (e, rest) := match exponent? rest with
      | some (e, rest) => (some e, rest)
      | none => (none, rest)
    if nameGoesOn rest then none
    else (literalNumber? negative whole frac e).map (·, rest)

/-- A literal: a text, a number or a constant. -/
def literal? (s : List Char) : Option (Value × List Char) :=
  match string? s with
  | some (t, rest) => some (.str t, rest)
  | none =>
  match rawString? s with
  | some (t, rest) => some (.str t, rest)
  | none =>
  match number? s with
  | some (n, rest) => some (.num n, rest)
  | none =>
  match keyword? "true" s with
  | some rest => some (.bool true, rest)
  | none =>
  match keyword? "false" s with
  | some rest => some (.bool false, rest)
  | none => (keyword? "nil" s).map (.null, ·)

/-! ## Declarations -/

/-- More variables behind commas. A comma that no variable follows is left. -/
def moreVariables : Nat → List Char → List String × List Char
  | 0, s => ([], s)
  | fuel + 1, s =>
    match skipSpace s with
    | ',' :: rest =>
      match dollarName? (skipSpace rest) with
      | some (v, rest) =>
        let (vs, rest) := moreVariables fuel rest
        (v :: vs, rest)
      | none => ([], s)
    | _ => ([], s)

/-- The variables declared at the start of a pipeline, if any. -/
def declarations (s : List Char) : List String × List Char :=
  match dollarName? s with
  | none => ([], s)
  | some (v, rest) =>
    let (vs, rest) := moreVariables rest.length rest
    match skipSpace rest with
    | ':' :: '=' :: rest => (v :: vs, skipSpace rest)
    | _ => ([], s)

/-! ## Pipelines -/

mutual

/-- An operand. -/
def operand? : Nat → List Char → Option (Operand × List Char)
  | 0, _ => none
  | fuel + 1, s =>
    match s with
    | '.' :: rest =>
      let (fields, after) := path s
      if fields.isEmpty then some (.field [], rest) else some (.field fields, after)
    | '$' :: _ =>
      match dollarName? s with
      | some (v, rest) =>
        let (fields, rest) := path rest
        some (.variable v fields, rest)
      | none => none
    | '(' :: rest =>
      match pipeline? fuel (skipSpace rest) with
      | some (p, rest) =>
        match skipSpace rest with
        | ')' :: rest =>
          let (fields, rest) := path rest
          some (.group p fields, rest)
        | _ => none
      | none => none
    | s => (literal? s).map fun (v, rest) => (.literal v, rest)

/-- Operands, each behind white space. White space that no operand follows is left. -/
def operands : Nat → List Char → List Operand × List Char
  | 0, s => ([], s)
  | fuel + 1, s =>
    if s.head?.any isSpace then
      match operand? fuel (skipSpace s) with
      | some (o, rest) =>
        let (os, rest) := operands fuel rest
        (o :: os, rest)
      | none => ([], s)
    else ([], s)

/-- A command: a function with its arguments, or an operand. -/
def command? : Nat → List Char → Option (Command × List Char)
  | 0, _ => none
  | fuel + 1, s =>
    match functionName? s with
    | some (name, rest) =>
      let (args, rest) := operands fuel rest
      some (.call name args, rest)
    | none => (operand? fuel s).map fun (o, rest) => (.operand o, rest)

/-- More commands behind bars. A bar that no command follows is left. -/
def moreCommands : Nat → List Char → List Command × List Char
  | 0, s => ([], s)
  | fuel + 1, s =>
    match skipSpace s with
    | '|' :: rest =>
      match command? fuel (skipSpace rest) with
      | some (c, rest) =>
        let (cs, rest) := moreCommands fuel rest
        (c :: cs, rest)
      | none => ([], s)
    | _ => ([], s)

/-- A pipeline. -/
def pipeline? : Nat → List Char → Option (Pipeline × List Char)
  | 0, _ => none
  | fuel + 1, s =>
    let (decls, s) := declarations (skipSpace s)
    match command? fuel s with
    | some (c, rest) =>
      let (cs, rest) := moreCommands fuel rest
      some (.mk decls (c :: cs), skipSpace rest)
    | none => none

end

/-! ## Actions -/

/-- What an action says. -/
inductive Action where
  | ifOpens (p : Pipeline)
  | elseIf (p : Pipeline)
  | elseAlone
  | endBlock
  | rangeOpens (p : Pipeline)
  | scopeOpens (p : Pipeline)
  | print (p : Pipeline)

/-- Reads an action, and returns what is left of its body. The forms are tried in turn, so that a
keyword without its pipeline is read as the name of a function. -/
def action? (s : List Char) : Option (Action × List Char) :=
  let pipeline := pipeline? (4 * s.length + 4)
  let after := fun (rest : Option (List Char)) (make : Pipeline → Action) =>
    (rest.bind pipeline).map fun (p, rest) => (make p, rest)
  (after (keyword? "if" s) .ifOpens).orElse fun _ =>
  (after ((keyword? "else" s).bind (keyword? "if")) .elseIf).orElse fun _ =>
  ((keyword? "else" s).map fun rest => (Action.elseAlone, skipSpace rest)).orElse fun _ =>
  ((keyword? "end" s).map fun rest => (Action.endBlock, skipSpace rest)).orElse fun _ =>
  (after (keyword? "range" s) .rangeOpens).orElse fun _ =>
  (after (keyword? "with" s) .scopeOpens).orElse fun _ =>
  after (some s) .print

end Cohort.Template
