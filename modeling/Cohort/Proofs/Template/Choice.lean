import Cohort.Proofs.Template.Skeleton
import Cohort.Template.Rendering
import Mathlib.Data.List.Range

/-! # Choices between the values of a field -/

namespace Cohort.Template

/-! ## Nodes -/

/-- The condition that a field has a value. -/
def Pipeline.equals (field value : String) : Pipeline :=
  .mk [] [.call "eq" [.field [field], .literal (.str value)]]

/-- The nodes of the first value that a field has, or else the last ones. -/
def Node.choice (field : String) (cases : List (String × List Node))
    (otherwise : Option (List Node)) : Node :=
  .branches (cases.map fun c => (.equals field c.1, c.2)) otherwise

/-- Calls a function with a field. -/
def Pipeline.calling (name field : String) : Pipeline := .mk [] [.call name [.field [field]]]

/-- Binds a field. -/
def Pipeline.arg (field : String) : Pipeline := .calling "arg" field

/-- Binds each item of a field. -/
def Pipeline.argEach (field : String) : Pipeline := .calling "argEach" field

/-- Prints a text. -/
def Pipeline.literal (s : String) : Pipeline := .mk [] [.operand (.literal (.str s))]

/-! ## Lists of placeholders -/

namespace Skeleton

/-- Values with commas between their placeholders. -/
def list : List Value → Skeleton
  | [] => .last ""
  | [v] => .gap "" v (.last "")
  | v :: w :: rest => .gap "" v ((list (w :: rest)).behind ", ")

theorem values_list (items : List Value) : (list items).values = items := by
  induction items with
  | nil => rfl
  | cons v rest ih =>
      cases rest with
      | nil => rfl
      | cons w rest => rw [list, values_gap, values_behind, ih]

theorem fill_list (f : Placeholder) (k : Nat) (items : List Value) :
    (list items).fill f k = String.intercalate ", " ((List.range' k items.length).map f) := by
  induction items generalizing k with
  | nil => rfl
  | cons v rest ih =>
      cases rest with
      | nil => simp [list, fill, String.intercalate_singleton]
      | cons w rest =>
          rw [list, fill, fill_behind, ih]
          simp only [List.length_cons, List.range'_succ, List.map_cons,
            String.intercalate_cons_cons, String.empty_append, String.append_assoc]

/-- What binding each item of a list prints. -/
def each (items : List Value) : Skeleton :=
  if items = [] then .last "NULL" else list items

theorem print_list (f : Placeholder) (k : Nat) (v : Value) (items : List Value) :
    (list (v :: items)).print f k = do
      return String.intercalate ", " (← (v :: items).mapM (bind f k)) := by
  induction items generalizing v with
  | nil => simp [list, print]
  | cons w items ih =>
      simp only [list, print, print_behind, ih, List.mapM_cons, bind_assoc, pure_bind,
        String.intercalate_cons_cons, String.empty_append, String.append_assoc]

theorem print_each (f : Placeholder) (k : Nat) (items : List Value) :
    (each items).print f k = bindEach f k (.arr items) := by
  cases items with
  | nil => rfl
  | cons v items =>
      rw [each, if_neg (List.cons_ne_nil _ _), print_list]
      rfl

theorem values_each (items : List Value) : (each items).values = items := by
  rw [each]
  split
  · rename_i hnil
    rw [hnil]
    rfl
  · exact values_list items

end Skeleton

/-! ## What nodes show -/

/-- On some parameters the nodes print a skeleton, and declare nothing. -/
def Shows (params : Params) (nodes : List Node) (s : Skeleton) : Prop :=
  ∀ f k scope, evalNodes f k scope (.obj params) nodes = do
    let t ← s.print f k
    return (scope, t)

variable {params : Params} {nodes : List Node} {s t : Skeleton} {field : String} {v : Value}

theorem shows_nil : Shows params [] (.last "") := by
  intro f k scope
  simp [evalNodes]

/-- Nodes go on behind one that declares nothing. -/
theorem Shows.cons {n : Node} (hn : ∀ f k scope, evalNode f k scope (.obj params) n = do
      let t ← s.print f k
      return (scope, t)) (h : Shows params nodes t) : Shows params (n :: nodes) (s ++ t) := by
  intro f k scope
  rw [evalNodes, hn]
  simp only [bind_assoc, pure_bind, h f k scope, Skeleton.print_append]

theorem Shows.text (text : String) (h : Shows params nodes s) :
    Shows params (.text text :: nodes) (s.behind text) := by
  rw [← Skeleton.last_append]
  refine Shows.cons (fun f k scope => ?_) h
  simp [evalNode]

theorem shows_text (text : String) : Shows params [.text text] (.last text) := by
  simpa [Skeleton.behind] using shows_nil.text text

theorem Shows.literal (text : String) (h : Shows params nodes s) :
    Shows params (.action (.literal text) :: nodes) (s.behind text) := by
  rw [← Skeleton.last_append]
  refine Shows.cons (fun f k scope => ?_) h
  simp [evalNode, Pipeline.literal, evalPipeline, evalCommands, evalCommand, evalOperand,
    Pipeline.decls, Value.toText]

theorem follow_of_get? (h : params.get? field = some v) : follow (.obj params) [field] = .ok v := by
  simp [follow, h]

theorem evalPipeline_calling (hv : params.get? field = some v) (name : String) (f : Placeholder)
    (k : Nat) (scope : Scope) :
    evalPipeline f k scope (.obj params) (.calling name field) = callFunction f k name [v] := by
  simp [Pipeline.calling, evalPipeline, evalCommands, evalCommand, evalOperands, evalOperand,
    follow_of_get? hv, lift]

theorem Shows.arg (hv : params.get? field = some v) (h : Shows params nodes s) :
    Shows params (.action (.arg field) :: nodes) (.gap "" v (.last "") ++ s) := by
  refine Shows.cons (fun f k scope => ?_) h
  have hcall : callFunction f k "arg" [v] = do return .str (← bind f k v) := rfl
  rw [evalNode, Pipeline.arg, evalPipeline_calling hv, hcall]
  simp [Pipeline.calling, Pipeline.decls, Skeleton.print, Value.toText]

theorem Shows.textArg (text : String) (hv : params.get? field = some v)
    (h : Shows params nodes s) :
    Shows params (.text text :: .action (.arg field) :: nodes) (.gap text v s) := by
  have hbehind : (Skeleton.gap "" v (.last "") ++ s).behind text = .gap text v s := by
    cases s <;> simp [Skeleton.behind]
  rw [← hbehind]
  exact (h.arg hv).text text

theorem Shows.argEach {items : List Value} (hv : params.get? field = some (.arr items))
    (h : Shows params nodes s) :
    Shows params (.action (.argEach field) :: nodes) (.each items ++ s) := by
  refine Shows.cons (fun f k scope => ?_) h
  have hcall : callFunction f k "argEach" [.arr items] = do
      return .str (← bindEach f k (.arr items)) := rfl
  rw [evalNode, Pipeline.argEach, evalPipeline_calling hv, hcall, Skeleton.print_each]
  simp [Pipeline.calling, Pipeline.decls, Value.toText]

/-! ## Choices -/

theorem evalPipeline_equals {name : String} (hv : params.get? field = some (.str name))
    (value : String) (f : Placeholder) (k : Nat) (scope : Scope) :
    evalPipeline f k scope (.obj params) (.equals field value) = pure (.bool (name == value)) := by
  have hcall : callFunction f k "eq" [.str name, .str value] =
      pure (.bool (Value.same (.str name) (.str value) || false)) := rfl
  simp [Pipeline.equals, evalPipeline, evalCommands, evalCommand, evalOperands, evalOperand,
    follow_of_get? hv, lift, hcall, Value.same]

/-- The conditions are tried in order, and the first that names the value of the field holds. -/
theorem evalBranches_equals {name : String} (hv : params.get? field = some (.str name))
    {cases : List (String × List Node)} {body : List Node} (hcase : cases.lookup name = some body)
    (f : Placeholder) (k : Nat) (scope : Scope) :
    evalBranches f k scope (.obj params) (cases.map fun c => (.equals field c.1, c.2)) = do
      let (_, s) ← evalNodes f k scope (.obj params) body
      return (scope, some s) := by
  induction cases with
  | nil => cases hcase
  | cons c cases ih =>
      obtain ⟨value, nodes⟩ := c
      rw [List.map_cons, evalBranches, evalPipeline_equals hv, pure_bind]
      by_cases heq : name = value
      · subst heq
        obtain rfl : nodes = body := by simpa using hcase
        simp [Value.isTruthy, Pipeline.equals, Pipeline.decls, declare]
      · have hne : (name == value) = false := by simpa using heq
        have hrest : cases.lookup name = some body := by
          simpa [List.lookup_cons, hne] using hcase
        simp only [hne, Value.isTruthy, Bool.false_eq_true, if_false]
        exact ih hrest

theorem Shows.choice {name : String} (hv : params.get? field = some (.str name))
    {cases : List (String × List Node)} {body : List Node} (hcase : cases.lookup name = some body)
    (otherwise : Option (List Node)) (hbody : Shows params body s) (h : Shows params nodes t) :
    Shows params (.choice field cases otherwise :: nodes) (s ++ t) := by
  refine Shows.cons (fun f k scope => ?_) h
  rw [Node.choice, evalNode, evalBranches_equals hv hcase, hbody]
  simp

/-- What nodes show on some parameters is the query, with the values that it binds. -/
theorem Shows.render {template : Template} (h : Shows params template.nodes s) (f : Placeholder)
    (k : Nat) : template.render f k params = .ok ⟨s.fill f k, s.values⟩ := by
  have hrun : template.run f k (.obj params) [] = (.ok (s.fill f k), s.values) := by
    have hprint := Skeleton.run_print f k s []
    simp only [List.length_nil, Nat.add_zero, List.nil_append] at hprint
    rw [Template.run, execute, h]
    simpa using hprint
  rw [Template.render, hrun]

end Cohort.Template
