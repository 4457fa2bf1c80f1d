import Cohort.Number.Basic

/-! # How bound arguments appear in a query -/

namespace Cohort

/-- The styles of placeholders. -/
inductive PlaceholderStyle where
  /-- `?` -/
  | question
  /-- `$1`, `$2`, and so on -/
  | dollar
  /-- `@p1`, `@p2`, and so on -/
  | atSign
  /-- `:1`, `:2`, and so on -/
  | colon
deriving DecidableEq, Repr, Inhabited

namespace PlaceholderStyle

/-- All styles. -/
def all : List PlaceholderStyle := [.question, .dollar, .atSign, .colon]

/-- The name of a style in documents. -/
def name : PlaceholderStyle → String
  | .question => "question"
  | .dollar => "dollar"
  | .atSign => "at"
  | .colon => "colon"

/-- The style of a name. -/
def ofName? (name : String) : Option PlaceholderStyle :=
  all.find? fun s => s.name == name

/-- The placeholder of an index, counted from zero. -/
def format : PlaceholderStyle → Nat → String
  | .question, _ => "?"
  | .dollar, i => "$" ++ intText (i + 1)
  | .atSign, i => "@p" ++ intText (i + 1)
  | .colon, i => ":" ++ intText (i + 1)

end PlaceholderStyle

end Cohort
