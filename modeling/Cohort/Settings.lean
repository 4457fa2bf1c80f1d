import Cohort.Dialect
import Cohort.Document.Record
import Cohort.Fault
import Cohort.Files.Access
import Cohort.Placeholder
import Cohort.Toml.Reader

/-! # Settings -/

namespace Cohort

open Document

/-- How expressions are compiled. -/
structure Settings where
  dialect : Dialect := .bigQuery
  /-- The file of the catalog; without one the catalog of the program is used. -/
  catalogPath : Option String := none
  /-- Whether expressions are simplified first. -/
  simplify : Bool := true
  placeholder : PlaceholderStyle := .question
deriving DecidableEq, Repr, Inhabited

namespace Settings

/-! ## Documents -/

/-- Settings as a document. -/
def toDocument (s : Settings) : Document :=
  .obj [("dialect", .str s.dialect.name),
    ("catalog_path", match s.catalogPath with
      | some path => .str path
      | none => .null),
    ("simplify", .bool s.simplify), ("placeholder", .str s.placeholder.name)]

/-- The settings of a document; `blank` says what may stand beside a name in an object. -/
def ofDocument? (blank : Document → Bool) (d : Document) : Option Settings := do
  let fields ← d.record? ["dialect", "catalog_path", "simplify", "placeholder"]
  return {
    dialect := ← fieldOr? fields "dialect" (choice? blank Dialect.ofName?) .bigQuery
    catalogPath := ← fieldOr? fields "catalog_path" (nullable? text?) none
    simplify := ← fieldOr? fields "simplify" flag? true
    placeholder := ← fieldOr? fields "placeholder" (choice? blank PlaceholderStyle.ofName?)
      .question }

/-- The settings of a TOML text. -/
def ofToml (text : String) : Except Fault Settings :=
  match (Toml.read? text).bind (ofDocument? isEmpty) with
  | some s => .ok s
  | none => .error .toml

/-! ## Files -/

/-- The settings of a file at a path. A relative path in it is seen from the directory of the
file. -/
def ofFile (path text : String) : Except Fault Settings := do
  let s ← ofToml text
  match s.catalogPath, Path.parent? path with
  | some catalog, some directory => return { s with catalogPath := some (Path.join directory catalog) }
  | _, _ => return s

section

variable {m : Type → Type} [Monad m] (around : Surroundings m)

/-- Reads the settings at a path. -/
def load (path : String) : m (Except Fault Settings) := do
  match ← around.contents path with
  | .ok text => return ofFile path text
  | .error _ => return .error .io

/-- Where settings are looked for if no path is given. -/
def defaultPath : m (Option String) := do
  let directory ← match ← around.lookUp "XDG_CONFIG_HOME" with
    | some directory =>
      if Path.isAbsolute directory then pure (some directory)
      else return ((← around.lookUp "HOME").map fun home => Path.join home ".config")
    | none => return ((← around.lookUp "HOME").map fun home => Path.join home ".config")
  return directory.map fun directory => Path.join (Path.join directory "tagql") "config.toml"

/-- Reads the settings at a path, which has to exist; or those of the usual place, if there are any
there. -/
def discover (path : Option String) : m (Except Fault Settings) := do
  match path with
  | some path =>
    match ← around.contents path with
    | .ok text => return ofFile path text
    | .error fault =>
      return .error (if fault.exists then .io else .settings (.fileNotFound path))
  | none =>
    match ← defaultPath around with
    | none => return .ok {}
    | some path =>
      match ← around.contents path with
      | .ok text => return ofFile path text
      | .error fault => return if fault.exists then .error .io else .ok {}

end

end Settings

end Cohort
