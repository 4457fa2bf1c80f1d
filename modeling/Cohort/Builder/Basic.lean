import Cohort.Context
import Cohort.Sql
import Cohort.View

/-! # Builders: what tags are made of -/

namespace Cohort

/-- A group of builders. -/
structure Category where
  id : String
  name : String
  description : String := ""
deriving DecidableEq, Repr

/-- What is told of a builder. Without a category its `categoryId` is empty. -/
structure Metadata where
  id : String
  name : String
  description : String := ""
  categoryId : String := ""
  view : Option View := none

/-- The query for the parameters of a tag in a context. -/
abbrev BuildQuery := Context → Params → Except Fault Sql

/-- A builder that makes queries. -/
structure SqlBuilder where
  metadata : Metadata
  build : BuildQuery

/-- A builder, which may only describe something. -/
inductive Builder where
  | descriptive (metadata : Metadata)
  | sql (builder : SqlBuilder)

namespace Builder

/-- What is told of a builder. -/
def metadata : Builder → Metadata
  | .descriptive m => m
  | .sql b => b.metadata

/-- The identifier of a builder. -/
def id (b : Builder) : String := b.metadata.id

/-- The builder as one that makes queries. -/
def sql? : Builder → Option SqlBuilder
  | .descriptive _ => none
  | .sql b => some b

/-- Shows the kind of a builder and its identifier. -/
def shown : Builder → String
  | .descriptive m => "Descriptive(" ++ Text.quoted m.id ++ ")"
  | .sql b => "Sql(" ++ Text.quoted b.metadata.id ++ ")"

end Builder

end Cohort
