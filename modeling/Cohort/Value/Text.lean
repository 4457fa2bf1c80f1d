import Cohort.Text.Blank
import Cohort.Text.Slice
import Cohort.Value.Basic

/-! # Text, lists and truth of values -/

namespace Cohort.Value

/-! ## Plain text -/

mutual

/-- A value in plain text: texts as they are, null as nothing, lists and objects in brackets. -/
def toText : Value → String
  | .null => ""
  | .bool b => if b then "true" else "false"
  | .num n => n.plainText
  | .str s => s
  | .arr items => "[" ++ String.intercalate " " (textsOf items) ++ "]"
  | .obj fields => "map[" ++ String.intercalate " " (fieldTextsOf fields) ++ "]"

/-- Values in plain text. -/
def textsOf : List Value → List String
  | [] => []
  | v :: rest => v.toText :: textsOf rest

/-- Named values in plain text. -/
def fieldTextsOf : List (String × Value) → List String
  | [] => []
  | (name, v) :: rest => (name ++ ":" ++ v.toText) :: fieldTextsOf rest

end

/-! ## Lists -/

/-- A text split at its commas, each item trimmed. The empty text is the empty list. -/
def splitList (s : String) : List String :=
  if s.isEmpty then []
  else (Text.split [','] s.toList).map fun item => String.ofList (Text.trim item)

/-- A value as a list: a list itself, or a text that is split at its commas. -/
def toList? : Value → Option (List Value)
  | .arr items => some items
  | .str s => some ((splitList s).map .str)
  | _ => none

/-! ## Truth -/

/-- Whether a value counts as true: false, zero, null and all that is empty do not. -/
def isTruthy : Value → Bool
  | .null => false
  | .bool b => b
  | .num n => n.toUnits != 0
  | .str s => !s.isEmpty
  | .arr items => !items.isEmpty
  | .obj fields => !fields.isEmpty

end Cohort.Value
