import Cohort.Builder.Hook
import Cohort.Builder.TemplateBuilder
import Cohort.Stock.Source

/-! # Stock builders on a column of the users -/

namespace Cohort.Stock

/-! ## Fields -/

/-- What is told of a tag on a column. The column is written into the query as it is. -/
structure FieldTag where
  id : String
  name : String
  description : String := ""
  categoryId : String := ""
  column : String
deriving DecidableEq, Repr

/-- What is told of the builder, without its view. -/
def FieldTag.metadata (t : FieldTag) : Metadata :=
  { id := t.id, name := t.name, description := t.description, categoryId := t.categoryId }

/-! ## Parts of forms -/

/-- The slot of a required parameter. -/
def required (key : String) : Slot := { key := key, required := true }

/-- The condition that a parameter has a value. -/
def whenEqual (key value : String) : Params := [(key, .str value)]

/-- An option with the name and label of something. -/
def optionOf {α : Type} (name label : α → String) (x : α) : SelectOption := ⟨.str (name x), label x⟩

/-- A text between inputs. -/
def caption (s : String) : Fragment := ⟨{}, .text s⟩

/-! ## Numbers -/

/-- The form of a number: an operator, and one number or two. -/
def numberView (min max : Extended) : View :=
  let between := whenEqual "operator" NumberOperator.between.name
  let number := Control.numberInput min max
  ⟨[⟨required "operator",
      .select (NumberOperator.all.map (optionOf NumberOperator.name NumberOperator.label)) false⟩,
    ⟨{ required "value" with skipIf := between }, number⟩,
    ⟨{ required "min" with skipUnless := between }, number⟩,
    ⟨{ skipUnless := between }, .text "and"⟩,
    ⟨{ required "max" with skipUnless := between }, number⟩]⟩

/-- The builder that compares a column to numbers. -/
def numberBuilder (t : FieldTag) (min max : Extended) (placeholder : Template.Placeholder) :
    TemplateBuilder :=
  ⟨{ t.metadata with view := some (numberView min max) }, numberSource t.column, placeholder⟩

/-! ## Texts -/

/-- The condition that the operator takes a list. -/
def whenOnList : Params :=
  [("$operator", .obj [("IN", .arr (TextOperator.onList.map fun op => .str op.name))])]

/-- The form of a text: an operator, and an operand or several. With options the operands are chosen
from them. -/
def textView (options : List SelectOption) : View :=
  let operator := { required "operator" with defaultValue := .str TextOperator.equal.name }
  let operators := fun (ops : List TextOperator) =>
    Control.select (ops.map (optionOf TextOperator.name TextOperator.label)) false
  let value := { required "value" with skipIf := whenOnList }
  let values := { required "values" with skipUnless := whenOnList }
  if options.isEmpty then
    ⟨[⟨operator, operators TextOperator.all⟩, ⟨value, .textInput⟩, ⟨values, .textInput⟩]⟩
  else
    ⟨[⟨operator, operators TextOperator.forChoice⟩, ⟨value, .select options false⟩,
      ⟨values, .select options true⟩]⟩

/-- The parameters with a text under `values` made a list. -/
def splitValues (params : Params) : Params :=
  match params.get? "values" with
  | some (.str s) => params.set "values" (.arr ((Value.splitList s).map .str))
  | _ => params

/-- The hook that checks the parameters as they were submitted, and splits `values`. -/
def checkAndSplit (v : View) : Hook BuildQuery :=
  fun next ctx params => do
    v.validate params
    next ctx (splitValues params)

/-- The builder that matches a column with texts. -/
def textBuilder (t : FieldTag) (options : List SelectOption) (placeholder : Template.Placeholder) :
    SqlBuilder :=
  let view := textView options
  let template : TemplateBuilder := ⟨t.metadata, textSource t.column, placeholder⟩
  template.toSqlBuilder.wrap [checkAndSplit view] [fun _ => { t.metadata with view := some view }]

/-! ## Dates -/

/-- The form of a period: two dates, or two moments if the time is included. -/
def periodView (includeTime : Bool) : View :=
  let date := Control.datePicker none none includeTime
  ⟨[caption "Between", ⟨required "start", date⟩, caption "and", ⟨required "end", date⟩]⟩

/-- The builder that asks for a column between two dates. -/
def periodBuilder (t : FieldTag) (includeTime : Bool) (placeholder : Template.Placeholder) :
    TemplateBuilder :=
  ⟨{ t.metadata with view := some (periodView includeTime) }, periodSource t.column, placeholder⟩

end Cohort.Stock
