import Cohort.Template.Action
import Cohort.Template.Function
import Cohort.Template.Scanner

/-! # Assembling actions to a tree -/

namespace Cohort.Template

/-! ## Checking pipelines -/

mutual

/-- Checks an operand: a pipeline in parentheses declares nothing. -/
def checkOperand : Operand → Except ParseFault Unit
  | .group p _ => checkPipeline 0 p
  | _ => .ok ()

/-- Checks operands from left to right. -/
def checkOperands : List Operand → Except ParseFault Unit
  | [] => .ok ()
  | o :: rest => do
    checkOperand o
    checkOperands rest

/-- Checks the stages of a pipeline. Functions are defined, and only the first stage may be an
operand. -/
def checkCommands : Bool → List Command → Except ParseFault Unit
  | _, [] => .ok ()
  | _, .call name args :: rest => do
    if isDefined name then
      checkOperands args
      checkCommands false rest
    else throw (.undefinedFunction name)
  | first, .operand o :: rest => do
    if first then
      checkOperand o
      checkCommands false rest
    else throw .operandAsStage

/-- Checks a pipeline that may declare so many variables. -/
def checkPipeline : Nat → Pipeline → Except ParseFault Unit
  | limit, .mk decls commands => do
    if limit < decls.length then throw .tooManyDeclarations
    checkCommands true commands

end

/-- Checks the pipeline of an action. A range may declare an index beside the item. -/
def Action.check : Action → Except ParseFault Unit
  | .rangeOpens p => checkPipeline 2 p
  | .ifOpens p | .elseIf p | .scopeOpens p | .print p => checkPipeline 1 p
  | .elseAlone | .endBlock => .ok ()

/-- Reads the body of an action. -/
def Action.read (body : List Char) : Except ParseFault Action :=
  match action? body with
  | some (a, []) => do
    a.check
    return a
  | some (_, rest) => .error (.unexpectedRest (String.ofList rest))
  | none => .error (.malformedAction (String.ofList body))

/-! ## Blocks -/

/-- A block that is open, with the line it opened on and what was read of it. -/
inductive Block where
  /-- Conditions, the last one open; those before are kept in reverse. -/
  | branches (line : Nat) (done : List (Pipeline × List Node)) (condition : Pipeline)
  | range (line : Nat) (p : Pipeline)
  | scope (line : Nat) (p : Pipeline)
  /-- The last part of a block, with the line of its `else`. -/
  | branchesElse (line : Nat) (done : List (Pipeline × List Node))
  | rangeElse (line : Nat) (p : Pipeline) (body : List Node)
  | scopeElse (line : Nat) (p : Pipeline) (body : List Node)

/-- The node of a block that ends with these nodes. -/
def Block.finish (nodes : List Node) : Block → Node
  | .branches _ done condition => .branches ((condition, nodes) :: done).reverse none
  | .range _ p => .range p nodes none
  | .scope _ p => .scope p nodes none
  | .branchesElse _ done => .branches done.reverse (some nodes)
  | .rangeElse _ p body => .range p body (some nodes)
  | .scopeElse _ p body => .scope p body (some nodes)

/-- What an `else` on a line makes of a block. -/
def Block.turn (nodes : List Node) (line : Nat) : Block → Except Fault Block
  | .branches _ done condition => .ok (.branchesElse line ((condition, nodes) :: done))
  | .range _ p => .ok (.rangeElse line p nodes)
  | .scope _ p => .ok (.scopeElse line p nodes)
  | _ => .error (.parse line .secondElse)

/-- What an `else if` on a line makes of a block. -/
def Block.turnIf (nodes : List Node) (line : Nat) (p : Pipeline) : Block → Except Fault Block
  | .branches start done condition => .ok (.branches start ((condition, nodes) :: done) p)
  | .range _ _ => .error (.parse line (.elseIfInside .range))
  | .scope _ _ => .error (.parse line (.elseIfInside .scope))
  | _ => .error (.parse line .secondElse)

/-- The fault of a source that ends inside a block. -/
def Block.unclosed : Block → Fault
  | .branches line _ _ => .parse line (.unclosedBlock .branches)
  | .range line _ => .parse line (.unclosedBlock .range)
  | .scope line _ => .parse line (.unclosedBlock .scope)
  | .branchesElse line _ | .rangeElse line _ _ | .scopeElse line _ _ => .parse line .unclosedElse

/-! ## Assembling -/

/-- The open blocks, the innermost first, each with the nodes before it in reverse. -/
abbrev Blocks := List (Block × List Node)

/-- Assembles pieces; `nodes` are those read since the innermost block opened, in reverse. -/
def assemble : Blocks → List Node → List Piece → Except Fault (List Node)
  | [], nodes, [] => .ok nodes.reverse
  | (block, _) :: _, _, [] => .error block.unclosed
  | blocks, nodes, .text s :: rest => assemble blocks (.text s :: nodes) rest
  | blocks, nodes, .action body line :: rest =>
    match Action.read body with
    | .error fault => .error (.parse line fault)
    | .ok (.print p) => assemble blocks (.action p :: nodes) rest
    | .ok (.ifOpens p) => assemble ((.branches line [] p, nodes) :: blocks) [] rest
    | .ok (.rangeOpens p) => assemble ((.range line p, nodes) :: blocks) [] rest
    | .ok (.scopeOpens p) => assemble ((.scope line p, nodes) :: blocks) [] rest
    | .ok (.elseIf p) =>
      match blocks with
      | [] => .error (.parse line .strayElse)
      | (block, before) :: outer => do
        let block ← block.turnIf nodes.reverse line p
        assemble ((block, before) :: outer) [] rest
    | .ok .elseAlone =>
      match blocks with
      | [] => .error (.parse line .strayElse)
      | (block, before) :: outer => do
        let block ← block.turn nodes.reverse line
        assemble ((block, before) :: outer) [] rest
    | .ok .endBlock =>
      match blocks with
      | [] => .error (.parse line .strayEnd)
      | (block, before) :: outer => assemble outer (block.finish nodes.reverse :: before) rest

/-- The nodes of a source. -/
def parse (source : String) : Except Fault (List Node) := do
  assemble [] [] (← scan source)

end Cohort.Template
