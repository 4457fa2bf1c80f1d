import Cohort.Value.Basic

/-! # Templates as trees -/

namespace Cohort.Template

mutual

/-- What a command is applied to. -/
inductive Operand where
  /-- `.a.b`; an empty path is the dot itself -/
  | field (path : List String)
  /-- `$` or `$name`, with a path of fields -/
  | variable (name : String) (path : List String)
  | literal (value : Value)
  /-- a pipeline in parentheses, with a path of fields -/
  | group (pipeline : Pipeline) (path : List String)

/-- One stage of a pipeline. -/
inductive Command where
  | call (name : String) (args : List Operand)
  | operand (o : Operand)

/-- Declared variables, and commands each of which takes the result of the one before as its last
argument. -/
inductive Pipeline where
  | mk (decls : List String) (commands : List Command)

end

/-- The variables that a pipeline declares. -/
def Pipeline.decls : Pipeline → List String
  | .mk decls _ => decls

/-- The stages of a pipeline. -/
def Pipeline.commands : Pipeline → List Command
  | .mk _ commands => commands

/-- A part of a template. -/
inductive Node where
  /-- Text that is printed as it stands. -/
  | text (s : String)
  /-- A pipeline whose result is printed, unless it declares a variable. -/
  | action (p : Pipeline)
  /-- The body of the first condition that holds, or else the last part. -/
  | branches (conditions : List (Pipeline × List Node)) (otherwise : Option (List Node))
  /-- The body for each item of a list or object, or the last part if there is none. -/
  | range (p : Pipeline) (body : List Node) (otherwise : Option (List Node))
  /-- The body with the dot set to a value that holds, or else the last part. -/
  | scope (p : Pipeline) (body : List Node) (otherwise : Option (List Node))

end Cohort.Template
