import Cohort.Proofs.Template.Source.Printing

/-! # What stands in a tree

All nodes and pipelines of a tree, at any depth, and what is asked of each of them.
-/

namespace Cohort.Template

/-! ## Elements -/

/-- Where a pipeline stands, as far as its variables are concerned. -/
inductive Place where
  /-- In parentheses. -/
  | group
  /-- In an action by itself, or at the head of a condition or a scope. -/
  | value
  /-- At the head of a range. -/
  | items
deriving DecidableEq

/-- How many variables may be declared. -/
def Place.limit : Place → Nat
  | .group => 0
  | .value => 1
  | .items => 2

/-- A node, or a pipeline with its place. -/
inductive Element where
  | node (n : Node)
  | pipeline (place : Place) (p : Pipeline)

mutual

/-- The pipelines in an operand. -/
def Operand.elements : Operand → List Element
  | .group p _ => .pipeline .group p :: p.elements
  | .field _ | .variable _ _ | .literal _ => []

/-- The pipelines in some operands. -/
def Operand.allElements : List Operand → List Element
  | [] => []
  | o :: rest => o.elements ++ Operand.allElements rest

/-- The pipelines in a command. -/
def Command.elements : Command → List Element
  | .call _ args => Operand.allElements args
  | .operand o => o.elements

/-- The pipelines in some commands. -/
def Command.allElements : List Command → List Element
  | [] => []
  | c :: rest => c.elements ++ Command.allElements rest

/-- The pipelines inside a pipeline. -/
def Pipeline.elements : Pipeline → List Element
  | .mk _ commands => Command.allElements commands

end

/-- A pipeline and those inside it. -/
def Pipeline.elementsAt (place : Place) (p : Pipeline) : List Element :=
  .pipeline place p :: p.elements

mutual

/-- A node and all that stands in it. -/
def Node.elements : Node → List Element
  | .text s => [.node (.text s)]
  | .action p => .node (.action p) :: p.elementsAt .value
  | .branches conditions otherwise =>
    .node (.branches conditions otherwise) ::
      (Node.branchElements conditions ++ Node.otherwiseElements otherwise)
  | .range p body otherwise =>
    .node (.range p body otherwise) ::
      (p.elementsAt .items ++ (Node.allElements body ++ Node.otherwiseElements otherwise))
  | .scope p body otherwise =>
    .node (.scope p body otherwise) ::
      (p.elementsAt .value ++ (Node.allElements body ++ Node.otherwiseElements otherwise))

/-- Some nodes and all that stands in them. -/
def Node.allElements : List Node → List Element
  | [] => []
  | n :: rest => n.elements ++ Node.allElements rest

/-- What stands in the last part of a block. -/
def Node.otherwiseElements : Option (List Node) → List Element
  | none => []
  | some nodes => Node.allElements nodes

/-- What stands in some branches. -/
def Node.branchElements : List (Pipeline × List Node) → List Element
  | [] => []
  | (p, body) :: rest =>
    p.elementsAt .value ++ (Node.allElements body ++ Node.branchElements rest)

end

/-! ## Soundness -/

/-- The function that a command calls, if any, is one that there is. -/
def Command.isKnown : Command → Bool
  | .call name _ => isDefined name
  | .operand _ => true

/-- A pipeline has commands, only the first may be an operand, all functions are known, and there
are no more variables than its place allows. -/
structure Pipeline.IsSound (place : Place) (p : Pipeline) : Prop where
  decls : p.decls.length ≤ place.limit
  commands : p.commands ≠ []
  calls : ∀ c ∈ p.commands.tail, c.isCall = true
  known : ∀ c ∈ p.commands, c.isKnown = true

/-- A text is not empty, and branches have a condition. -/
def Node.IsSound : Node → Prop
  | .text s => s ≠ ""
  | .branches conditions _ => conditions ≠ []
  | .action _ | .range _ _ _ | .scope _ _ _ => True

/-- A node or a pipeline is as asked. -/
def Element.IsSound : Element → Prop
  | .node n => n.IsSound
  | .pipeline place p => p.IsSound place

/-- All elements are as asked. -/
def AllSound (elements : List Element) : Prop := ∀ e ∈ elements, e.IsSound

section

variable {e : Element} {es es' : List Element} {nodes : List Node} {p : Pipeline}
  {conditions : List (Pipeline × List Node)} {otherwise : Option (List Node)}

@[simp] theorem allSound_nil : AllSound [] := List.forall_mem_nil _

@[simp] theorem allSound_cons : AllSound (e :: es) ↔ e.IsSound ∧ AllSound es := List.forall_mem_cons

@[simp] theorem allSound_append : AllSound (es ++ es') ↔ AllSound es ∧ AllSound es' :=
  List.forall_mem_append

theorem allSound_action :
    AllSound (Node.action p).elements ↔ AllSound (p.elementsAt .value) := by
  rw [Node.elements, allSound_cons]
  exact and_iff_right trivial

theorem allSound_branches :
    AllSound (Node.branches conditions otherwise).elements ↔
      conditions ≠ [] ∧ AllSound (Node.branchElements conditions) ∧
        AllSound (Node.otherwiseElements otherwise) := by
  rw [Node.elements, allSound_cons, allSound_append]
  exact Iff.rfl

theorem allSound_range :
    AllSound (Node.range p nodes otherwise).elements ↔
      AllSound (p.elementsAt .items) ∧ AllSound (Node.allElements nodes) ∧
        AllSound (Node.otherwiseElements otherwise) := by
  rw [Node.elements, allSound_cons, allSound_append, allSound_append]
  exact and_iff_right trivial

theorem allSound_scope :
    AllSound (Node.scope p nodes otherwise).elements ↔
      AllSound (p.elementsAt .value) ∧ AllSound (Node.allElements nodes) ∧
        AllSound (Node.otherwiseElements otherwise) := by
  rw [Node.elements, allSound_cons, allSound_append, allSound_append]
  exact and_iff_right trivial

theorem allSound_allElements :
    AllSound (Node.allElements nodes) ↔ ∀ n ∈ nodes, AllSound n.elements := by
  induction nodes with
  | nil => simp [Node.allElements]
  | cons n nodes ih => simp [Node.allElements, ih]

theorem allSound_reverse :
    AllSound (Node.allElements nodes.reverse) ↔ AllSound (Node.allElements nodes) := by
  simp [allSound_allElements]

theorem allSound_branchElements_concat {body : List Node} :
    AllSound (Node.branchElements (conditions ++ [(p, body)])) ↔
      AllSound (Node.branchElements conditions) ∧ AllSound (p.elementsAt .value) ∧
        AllSound (Node.allElements body) := by
  induction conditions with
  | nil => simp [Node.branchElements]
  | cons condition conditions ih => simp [Node.branchElements, ih, and_assoc]

end

end Cohort.Template
