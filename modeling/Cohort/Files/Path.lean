import Cohort.Text.Slice

/-! # Paths of files -/

namespace Cohort.Path

open Text

/-- The parts of a path between its slashes. -/
def parts (path : String) : List String :=
  (split ['/'] path.toList).map String.ofList

/-- Whether a path begins at the root. -/
def isAbsolute (path : String) : Bool :=
  path.toList.head? == some '/'

/-- Whether a part leads nowhere: it is empty, or a point. -/
def isIdle (part : String) : Bool := part.isEmpty || part == "."

/-- The parts without idle ones at the end. -/
def dropIdle (parts : List String) : List String :=
  (parts.reverse.dropWhile isIdle).reverse

/-- The directory of a path, unless it names the root or nothing. A point at its start is kept. -/
def parent? (path : String) : Option String :=
  let absolute := isAbsolute path
  let rest := if absolute then (parts path).drop 1 else parts path
  let (start, body) := match absolute, rest with
    | false, "." :: body => (["."], body)
    | _, body => ([], body)
  match (dropIdle body).reverse with
  | [] => if start.isEmpty then none else some ""
  | _ :: before =>
    let shown := String.intercalate "/" (start ++ dropIdle before.reverse)
    some (if absolute then "/" ++ shown else shown)

/-- A path seen from a directory. -/
def join (directory path : String) : String :=
  if isAbsolute path ∨ directory.isEmpty then path
  else if directory.toList.getLast? = some '/' then directory ++ path
  else directory ++ "/" ++ path

end Cohort.Path
