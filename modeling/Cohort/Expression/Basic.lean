import Cohort.Value.Basic

/-! # Filter expressions: tags combined by set operations -/

namespace Cohort

/-- A leaf of an expression: a builder and the parameters submitted for it. -/
structure Tag where
  builderId : String
  params : Params := []

/-- How a node combines the users of its children. -/
inductive SetOperation where
  | intersect
  | union
  /-- The first child without the others. -/
  | except
deriving DecidableEq, Repr

namespace SetOperation

/-- All operations. -/
def all : List SetOperation := [.intersect, .union, .except]

/-- The name of an operation. -/
def name : SetOperation → String
  | .intersect => "INTERSECT"
  | .union => "UNION"
  | .except => "EXCEPT"

end SetOperation

/-- A node as it was submitted. One that is well formed is either a tag or has one list of children
that is not empty. -/
structure Expression where
  intersect : List Expression := []
  union : List Expression := []
  except : List Expression := []
  tag : Option Tag := none

instance : Inhabited Expression := ⟨⟨[], [], [], none⟩⟩

namespace Expression

/-- The node without children and tag. -/
def empty : Expression := ⟨[], [], [], none⟩

/-- A leaf. -/
def ofTag (t : Tag) : Expression := ⟨[], [], [], some t⟩

/-- A node with one list of children. -/
def ofSet (op : SetOperation) (children : List Expression) : Expression :=
  match op with
  | .intersect => ⟨children, [], [], none⟩
  | .union => ⟨[], children, [], none⟩
  | .except => ⟨[], [], children, none⟩

/-- The children under an operation. -/
def children (e : Expression) : SetOperation → List Expression
  | .intersect => e.intersect
  | .union => e.union
  | .except => e.except

/-- A node with the children under an operation replaced. -/
def withChildren (e : Expression) (op : SetOperation) (children : List Expression) : Expression :=
  match op with
  | .intersect => { e with intersect := children }
  | .union => { e with union := children }
  | .except => { e with except := children }

end Expression

end Cohort
