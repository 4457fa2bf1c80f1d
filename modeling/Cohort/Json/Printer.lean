import Cohort.Document.Basic

/-! # Writing JSON -/

namespace Cohort.Json

/-! ## Scalars -/

/-- A control character by its code. -/
def controlEscape (c : Char) : List Char :=
  let n := c.toNat
  ['\\', 'u', '0', '0', Nat.digitChar (n / 16), Nat.digitChar (n % 16)]

/-- A character of a text. -/
def escapeChar (c : Char) : List Char :=
  match c with
  | '"' => ['\\', '"']
  | '\\' => ['\\', '\\']
  | '\n' => ['\\', 'n']
  | '\r' => ['\\', 'r']
  | '\t' => ['\\', 't']
  | '\x08' => ['\\', 'b']
  | '\x0c' => ['\\', 'f']
  | c => if c.toNat < 0x20 then controlEscape c else [c]

/-- A text between quotes. -/
def quote (s : String) : String :=
  String.ofList ('"' :: s.toList.flatMap escapeChar ++ ['"'])

/-- A number; what is no finite number is null. -/
def floatText : Extended → String
  | .finite x => x.documentText
  | _ => "null"

/-! ## On one line -/

mutual

/-- A document without white space. -/
def compact : Document → String
  | .null => "null"
  | .bool b => if b then "true" else "false"
  | .int n => intText n
  | .float x => floatText x
  | .str s => quote s
  | .arr items => "[" ++ String.intercalate "," (compactItems items) ++ "]"
  | .obj fields => "\x7b" ++ String.intercalate "," (compactFields fields) ++ "\x7d"

/-- Items without white space. -/
def compactItems : List Document → List String
  | [] => []
  | d :: rest => compact d :: compactItems rest

/-- Fields without white space. -/
def compactFields : List (String × Document) → List String
  | [] => []
  | (name, d) :: rest => (quote name ++ ":" ++ compact d) :: compactFields rest

end

/-! ## Indented -/

/-- Parts on lines of their own between brackets, each indented by two blanks more than the bracket
that closes. -/
def block (indent : Nat) (opening closing : String) (parts : List String) : String :=
  if parts.isEmpty then opening ++ closing
  else
    let inner := "\n" ++ String.ofList (List.replicate (indent + 2) ' ')
    let outer := "\n" ++ String.ofList (List.replicate indent ' ')
    opening ++ inner ++ String.intercalate ("," ++ inner) parts ++ outer ++ closing

mutual

/-- A document with each item and field on a line of its own. -/
def prettyAt : Nat → Document → String
  | indent, .arr items => block indent "[" "]" (prettyItems (indent + 2) items)
  | indent, .obj fields => block indent "\x7b" "\x7d" (prettyFields (indent + 2) fields)
  | _, .null => "null"
  | _, .bool b => if b then "true" else "false"
  | _, .int n => intText n
  | _, .float x => floatText x
  | _, .str s => quote s

/-- Items, indented. -/
def prettyItems : Nat → List Document → List String
  | _, [] => []
  | indent, d :: rest => prettyAt indent d :: prettyItems indent rest

/-- Fields, indented. -/
def prettyFields : Nat → List (String × Document) → List String
  | _, [] => []
  | indent, (name, d) :: rest => (quote name ++ ": " ++ prettyAt indent d) :: prettyFields indent rest

end

/-- A document with each item and field on a line of its own. -/
def pretty (d : Document) : String := prettyAt 0 d

end Cohort.Json
