import Cohort.Catalog
import Cohort.CommandLine.Arguments
import Cohort.Compile
import Cohort.Expression.Simplify
import Cohort.Expression.Wire
import Cohort.Json.Printer
import Cohort.Json.Reader
import Cohort.Settings

/-! # Running a command -/

namespace Cohort

/-- The expression of a JSON text. -/
def Expression.ofJson (text : String) : Except Fault Expression :=
  match (Json.read? text).bind Expression.ofDocument? with
  | some e => .ok e
  | none => .error .json

namespace CommandLine

/-! ## Faults -/

/-- What can go wrong in a run. -/
inductive RunFault where
  | plain (fault : Fault)
  /-- A tag does not check. -/
  | tag (id : String) (fault : Fault)
  | catalog (path : String) (fault : Fault)
  | input (path : String) (fault : FileFault)
deriving Repr

/-- The message of a fault, followed by those of its causes. -/
def RunFault.message : RunFault → String
  | .plain fault => fault.chain
  | .tag id fault => "tag " ++ id ++ ": " ++ fault.chain
  | .catalog path fault => "loading catalog " ++ path ++ ": " ++ fault.chain
  | .input path fault => "reading " ++ path ++ ": " ++ fault.message

/-! ## Parts of a run -/

/-- The registry with the fragments of every type and the builders of a catalog. -/
def registryOf (c : Catalog) (style : PlaceholderStyle) : Except RunFault Registry :=
  match c.install style .standard with
  | (r, .ok ()) => .ok r
  | (_, .error fault) => .error (.plain fault)

/-- The expression of a JSON text, which has to be well formed. -/
def readExpression (text : String) : Except RunFault Expression := do
  let e ← (Expression.ofJson text).mapError .plain
  match e.validate with
  | .ok () => return e
  | .error fault => throw (.plain (.invalidExpression fault))

/-- What the check of a tag tells of a fault: that of its builder with the tag, any other alone. -/
def RunFault.ofTag : Fault → RunFault
  | .build id cause => .tag id cause
  | fault => .plain fault

/-- Checks a tag: its builder has to be there and to make a query of the parameters. -/
def checkTag (registry : Registry) (t : Tag) : Except RunFault Unit :=
  match t.build registry .background with
  | .ok _ => .ok ()
  | .error fault => .error (.ofTag fault)

mutual

/-- Checks the tags of an expression from left to right, each by itself. A node is looked at when it
is reached. -/
def checkTags (registry : Registry) : Expression → Except RunFault Unit
  | ⟨intersect, union, except, tag⟩ =>
    match Expression.shape ⟨intersect, union, except, tag⟩ with
    | .error fault => .error (.plain (.invalidExpression fault))
    | .ok (.tag t) => checkTag registry t
    | .ok (.set .intersect) => checkTagsOf registry intersect
    | .ok (.set .union) => checkTagsOf registry union
    | .ok (.set .except) => checkTagsOf registry except

/-- Checks the tags of expressions one behind another. -/
def checkTagsOf (registry : Registry) : List Expression → Except RunFault Unit
  | [] => .ok ()
  | e :: rest => do
    checkTags registry e
    checkTagsOf registry rest

end

/-! ## Printing -/

/-- A query for reading: on one line, with its arguments below. -/
def queryText (s : Sql) : String :=
  let args := s.args.zipIdx.map fun (v, i) =>
    "  [" ++ intText (i + 1) ++ "] " ++ Json.compact v.toDocument
  String.intercalate "\n" (Text.compact s.query :: args)

/-- A query as it was compiled. -/
def queryJson (s : Sql) : String :=
  Json.pretty (.obj [("args", .arr (Value.documentsOf s.args)), ("query", .str s.query)])

/-- A text with spaces behind it up to a width. -/
def padded (width : Nat) (s : String) : String :=
  s ++ String.ofList (List.replicate (width - s.length) ' ')

/-- A group of builders for reading. -/
def groupText (g : CategoryGroup) : String :=
  String.join ((g.category.name ++ " " ++ g.category.id ++ "\n") ::
    g.builders.map fun m => "  " ++ padded 20 m.id ++ " " ++ m.name ++ "\n")

/-- The categories and builders. -/
def catalogOutput (registry : Registry) (json : Bool) : String :=
  if json then Json.pretty (.arr (registry.groups.map CategoryGroup.toDocument)) ++ "\n"
  else String.join (registry.groups.map groupText)

/-- The query of an expression. -/
def compileOutput (registry : Registry) (settings : Settings) (e : Expression) (asWritten : Bool)
    (format : OutputFormat) : Except RunFault String := do
  let e := if settings.simplify && !asWritten then e.simplify else e
  let sql ← (e.compile registry settings.dialect .background).mapError .plain
  return (match format with
    | .text => queryText sql
    | .json => queryJson sql) ++ "\n"

/-! ## Runs -/

section

variable {m : Type → Type} [Monad m] (around : Surroundings m)

/-- The text of an input. -/
def readInput (input : String) : m (Except RunFault String) := do
  if input = "-" then return .ok (← around.readInput)
  else match ← around.contents input with
    | .ok text => return .ok text
    | .error fault => return .error (.input input fault)

/-- The catalog of the settings. -/
def readCatalog (settings : Settings) : m (Except RunFault Catalog) := do
  match settings.catalogPath with
  | none => return .ok .demo
  | some path =>
    match ← around.contents path with
    | .ok text => return (Catalog.ofToml text).mapError (.catalog path)
    | .error _ => return .error (.catalog path .io)

/-- What an invocation prints. -/
def perform (i : Invocation) : ExceptT RunFault m String := do
  let settings ← ExceptT.mk (return (← Settings.discover around i.config).mapError .plain)
  let settings := { settings with dialect := i.dialect.getD settings.dialect }
  let catalog ← ExceptT.mk (readCatalog around settings)
  let registry ← ExceptT.mk (return registryOf catalog settings.placeholder)
  let expression := fun (input : String) => ExceptT.mk (do
    return (← readInput around input).bind readExpression : m (Except RunFault Expression))
  match i.command with
  | .compile input asWritten format => do
    let e ← expression input
    ExceptT.mk (return compileOutput registry settings e asWritten format)
  | .simplify input => do
    let e ← expression input
    return Json.pretty e.simplify.toDocument ++ "\n"
  | .validate input => do
    let e ← expression input
    ExceptT.mk (return checkTags registry e)
    return "✓ expression is valid\n"
  | .catalog json => return catalogOutput registry json

/-- What a run leaves: its exit code, and what it prints. -/
structure Outcome where
  exitCode : Nat
  out : String := ""
  err : String := ""
deriving DecidableEq, Repr

/-- How the program is called. -/
def usage : String :=
  "usage: tagql [-c FILE] [-d DIALECT] [-v] (compile [--no-simplify] [-f text|json] INPUT | " ++
    "simplify INPUT | validate INPUT | catalog [--json])\n"

/-- Runs the program with arguments. -/
def run (args : List String) : m Outcome := do
  match Request.read (← around.lookUp "TAGQL_CONFIG") args with
  | .rejected => return { exitCode := 2, err := usage }
  | .help => return { exitCode := 0, out := usage }
  | .version => return { exitCode := 0, out := "tagql 0.3.0\n" }
  | .run invocation =>
    match ← (perform around invocation).run with
    | .ok out => return { exitCode := 0, out := out }
    | .error fault => return { exitCode := 1, err := "Error: " ++ fault.message ++ "\n" }

end

end CommandLine

end Cohort
