/-! # Prefixes, splitting and replacing -/

namespace Cohort.Text

/-- What follows a prefix, if the text starts with it. -/
def dropPrefix? : List Char → List Char → Option (List Char)
  | [], s => some s
  | _ :: _, [] => none
  | p :: ps, c :: cs => if p = c then dropPrefix? ps cs else none

/-- What comes before a suffix, if the text ends with it. -/
def dropSuffix? (suffix s : List Char) : Option (List Char) :=
  (dropPrefix? suffix.reverse s.reverse).map List.reverse

/-- What comes before and after the first occurrence of a mark. -/
def cut? (mark : List Char) : List Char → Option (List Char × List Char)
  | [] => none
  | c :: rest =>
    match dropPrefix? mark (c :: rest) with
    | some after => some ([], after)
    | none => (cut? mark rest).map fun (before, after) => (c :: before, after)

/-- Splits at the occurrences of a separator, left to right, where none overlaps the one before.
`piece` is the piece under way, in reverse, and `skip` counts what is left of the separator that is
being passed. -/
def splitFrom (sep : List Char) : Nat → List Char → List Char → List (List Char)
  | _, piece, [] => [piece.reverse]
  | skip + 1, piece, _ :: rest => splitFrom sep skip piece rest
  | 0, piece, c :: rest =>
    if (dropPrefix? sep (c :: rest)).isSome then
      piece.reverse :: splitFrom sep (sep.length - 1) [] rest
    else splitFrom sep 0 (c :: piece) rest

/-- The pieces of a text between the occurrences of a separator. The empty separator stands between
any two characters and at both ends. -/
def split (sep s : List Char) : List (List Char) :=
  if sep.isEmpty then [] :: s.map ([·]) ++ [[]] else splitFrom sep 0 [] s

/-- The text with every occurrence of `old` replaced. -/
def replace (old new s : List Char) : List Char :=
  List.intercalate new (split old s)

/-- Joins texts with a separator. -/
def join (sep : String) (parts : List String) : String :=
  String.intercalate sep parts

end Cohort.Text
