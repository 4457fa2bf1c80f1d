import Cohort.Template.Function
import Cohort.Template.Syntax

/-! # Evaluating templates -/

namespace Cohort.Template

/-! ## Binding values -/

/-- The text that stands for the bound value of an index, counted from zero. -/
abbrev Placeholder := Nat → String

/-- A computation that binds values. What was bound before a fault stays bound. -/
abbrev Render (α : Type) := ExceptT ExecFault (StateM (List Value)) α

/-- Binds a value, and gives the placeholder of its index. The first value has the index
`offset`. -/
def bind (placeholder : Placeholder) (offset : Nat) (v : Value) : Render String := do
  let args ← get
  set (args ++ [v])
  return placeholder (offset + args.length)

/-- Binds each item of a list, and gives the placeholders with commas between them. The empty list
is `NULL`, and what is no list is bound as it is. -/
def bindEach (placeholder : Placeholder) (offset : Nat) : Value → Render String
  | .arr [] => return "NULL"
  | .arr items => do
    return String.intercalate ", " (← items.mapM (bind placeholder offset))
  | v => bind placeholder offset v

/-- Calls a binding function. -/
def Binder.call (placeholder : Placeholder) (offset : Nat) (b : Binder) :
    List Value → Render Value
  | [v] => do
    match b with
    | .one => return .str (← bind placeholder offset v)
    | .each => return .str (← bindEach placeholder offset v)
  | args => throw (.argumentCount b.name 1 args.length)

/-! ## Pipelines -/

/-- The variables in scope, the latest first. -/
abbrev Scope := List (String × Value)

/-- Follows a path of fields. What is missing is null. -/
def follow : Value → List String → Except ExecFault Value
  | v, [] => .ok v
  | .obj fields, name :: rest =>
    match Fields.get? fields name with
    | some v => follow v rest
    | none => .ok .null
  | .null, _ :: _ => .ok .null
  | v, name :: _ => .error (.noField name v.kind)

/-- Turns an outcome into a computation that binds nothing. -/
def lift {α : Type} : Except ExecFault α → Render α
  | .ok a => pure a
  | .error e => throw e

/-- Calls a function with the values of its arguments. -/
def callFunction (placeholder : Placeholder) (offset : Nat) (name : String) (args : List Value) :
    Render Value :=
  match Binder.ofName? name with
  | some b => b.call placeholder offset args
  | none => lift (call name args)

section

variable (placeholder : Placeholder) (offset : Nat)

mutual

/-- The value of an operand. -/
def evalOperand (scope : Scope) (dot : Value) : Operand → Render Value
  | .field path => lift (follow dot path)
  | .literal v => pure v
  | .variable name path =>
    match scope.lookup name with
    | some v => lift (follow v path)
    | none => throw (.undefinedVariable name)
  | .group p path => do
    lift (follow (← evalPipeline scope dot p) path)

/-- The values of operands, from left to right. -/
def evalOperands (scope : Scope) (dot : Value) : List Operand → Render (List Value)
  | [] => pure []
  | o :: rest => do
    let v ← evalOperand scope dot o
    return v :: (← evalOperands scope dot rest)

/-- The value of a command. A function takes what the stage before gave as its last argument. -/
def evalCommand (scope : Scope) (dot : Value) : Option Value → Command → Render Value
  | _, .operand o => evalOperand scope dot o
  | piped, .call name args => do
    let values ← evalOperands scope dot args
    callFunction placeholder offset name (values ++ piped.toList)

/-- The value of stages behind a value. -/
def evalCommands (scope : Scope) (dot : Value) : Option Value → List Command → Render Value
  | piped, [] => pure (piped.getD .null)
  | piped, c :: rest => do
    let v ← evalCommand scope dot piped c
    evalCommands scope dot (some v) rest

/-- The value of a pipeline. -/
def evalPipeline (scope : Scope) (dot : Value) : Pipeline → Render Value
  | .mk _ commands => evalCommands scope dot none commands

end

/-! ## Nodes -/

/-- The scope with the first declared variable set. -/
def declare (scope : Scope) (decls : List String) (v : Value) : Scope :=
  match decls with
  | [] => scope
  | name :: _ => (name, v) :: scope

/-- The scope with the variables of a range set: the item, or its key and the item. -/
def declareItem (scope : Scope) (decls : List String) (key item : Value) : Scope :=
  match decls with
  | [v] => (v, item) :: scope
  | [k, v] => (v, item) :: (k, key) :: scope
  | _ => scope

/-- The items of a value with their indexes or names. -/
def items : Value → Except ExecFault (List (Value × Value))
  | .arr vs => .ok (vs.zipIdx.map fun (v, i) => (.ofNat i, v))
  | .obj fields => .ok (fields.map fun (name, v) => (.str name, v))
  | .null => .ok []
  | v => .error (.notIterable v.kind)

mutual

/-- Prints a node, and gives the scope for the nodes behind it. A block leaves the scope as it was,
except that the variables of the last part of a range without items stay in scope. -/
def evalNode (scope : Scope) (dot : Value) : Node → Render (Scope × String)
  | .text s => pure (scope, s)
  | .action p => do
    let v ← evalPipeline placeholder offset scope dot p
    if p.decls.isEmpty then return (scope, v.toText)
    else return (declare scope p.decls v, "")
  | .branches conditions otherwise => do
    match ← evalBranches scope dot conditions with
    | (_, some s) => return (scope, s)
    | (inner, none) =>
      let (_, s) ← evalOtherwise inner dot otherwise
      return (scope, s)
  | .range p body otherwise => do
    let v ← evalPipeline placeholder offset scope dot p
    match ← lift (items v) with
    | [] => evalOtherwise scope dot otherwise
    | entries => do
      let texts ← entries.mapM fun (key, item) => do
        let (_, s) ← evalNodes (declareItem scope p.decls key item) item body
        return s
      return (scope, String.join texts)
  | .scope p body otherwise => do
    let v ← evalPipeline placeholder offset scope dot p
    let inner := declare scope p.decls v
    let (_, s) ← if v.isTruthy then evalNodes inner v body else evalOtherwise inner dot otherwise
    return (scope, s)

/-- Prints nodes in order, and gives the scope behind them. -/
def evalNodes (scope : Scope) (dot : Value) : List Node → Render (Scope × String)
  | [] => pure (scope, "")
  | n :: rest => do
    let (scope, s) ← evalNode scope dot n
    let (scope, t) ← evalNodes scope dot rest
    return (scope, s ++ t)

/-- Prints the last part of a block, if it has one, and gives the scope behind it. -/
def evalOtherwise (scope : Scope) (dot : Value) : Option (List Node) → Render (Scope × String)
  | none => pure (scope, "")
  | some nodes => evalNodes scope dot nodes

/-- Prints the body of the first condition that holds, or gives the scope behind all of them: the
variable of a condition is in scope from there on. -/
def evalBranches (scope : Scope) (dot : Value) :
    List (Pipeline × List Node) → Render (Scope × Option String)
  | [] => pure (scope, none)
  | (p, body) :: rest => do
    let v ← evalPipeline placeholder offset scope dot p
    let scope := declare scope p.decls v
    if v.isTruthy then do
      let (_, s) ← evalNodes scope dot body
      return (scope, some s)
    else evalBranches scope dot rest

end

/-- Prints nodes with the dot and the variable `$` set to the data. -/
def execute (nodes : List Node) (data : Value) : Render String := do
  let (_, s) ← evalNodes placeholder offset [("$", data)] data nodes
  return s

end

end Cohort.Template
