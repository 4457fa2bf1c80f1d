import Cohort.Files.Path

/-! # Reading files -/

namespace Cohort

/-- Why a file cannot be read. -/
inductive FileFault where
  | notFound
  | notDirectory
  | isDirectory
  | unreadable
deriving DecidableEq, Repr

/-- The message of a fault. -/
def FileFault.message : FileFault → String
  | .notFound => "No such file or directory (os error 2)"
  | .notDirectory => "Not a directory (os error 20)"
  | .isDirectory => "Is a directory (os error 21)"
  | .unreadable => "stream did not contain valid UTF-8"

/-- Whether there is something that cannot be read. -/
def FileFault.exists : FileFault → Bool
  | .notFound | .notDirectory => false
  | .isDirectory | .unreadable => true

/-- What a program sees around it, in a monad. -/
structure Surroundings (m : Type → Type) where
  contents : String → m (Except FileFault String)
  readInput : m String
  lookUp : String → m (Option String)

/-- Files kept in memory. Each has a path from the root; directories are what the paths lead
through. -/
structure FileTree where
  /-- The directory that relative paths are seen from. -/
  current : List String
  files : List (List String × String)

namespace FileTree

/-- Whether a path leads to a directory. -/
def isDirectory (t : FileTree) (path : List String) : Bool :=
  path.isPrefixOf t.current ||
    t.files.any fun file => path.isPrefixOf file.1 && path.length < file.1.length

/-- Walks along parts from a directory. -/
def walk (t : FileTree) (place : List String) : List String → Except FileFault (List String)
  | [] => .ok place
  | part :: rest =>
    if !t.isDirectory place then
      .error (if (List.lookup place t.files).isSome then .notDirectory else .notFound)
    else if Path.isIdle part then walk t place rest
    else if part = ".." then walk t place.dropLast rest
    else walk t (place ++ [part]) rest

/-- Reads a file. -/
def read (t : FileTree) (path : String) : Except FileFault String := do
  if path.isEmpty then throw .notFound
  let place ← t.walk (if Path.isAbsolute path then [] else t.current) (Path.parts path)
  match List.lookup place t.files with
  | some text => return text
  | none => throw (if t.isDirectory place then .isDirectory else .notFound)

/-- A program that sees files in memory, an input and an environment. -/
def surroundings (t : FileTree) (input : String) (environment : List (String × String)) :
    Surroundings Id where
  contents := t.read
  readInput := input
  lookUp := fun name => List.lookup name environment

end FileTree

end Cohort
