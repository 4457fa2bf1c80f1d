import Cohort.Document.Record
import Cohort.Fragment.Basic

/-! # Fragments in documents -/

namespace Cohort

open Document

/-! ## Parts -/

namespace Validation

/-- The names of the fields. -/
def fieldNames : List String := ["pattern", "errorMessage"]

/-- A validation as a document. -/
def toDocument (v : Validation) : Document :=
  .obj [("pattern", .str v.pattern), ("errorMessage", .str v.errorMessage)]

/-- The validation of a document. -/
def ofDocument? (d : Document) : Option Validation := do
  let fields ← d.record? fieldNames
  return {
    pattern := ← field? fields "pattern" text?
    errorMessage := ← fieldOr? fields "errorMessage" text? "" }

end Validation

namespace SelectOption

/-- The names of the fields. -/
def fieldNames : List String := ["value", "label"]

/-- An option as a document. -/
def toDocument (o : SelectOption) : Document :=
  .obj [("value", o.value.toDocument), ("label", .str o.label)]

/-- The option of a document. Its value may be null, but not left out. -/
def ofDocument? (d : Document) : Option SelectOption := do
  let fields ← d.record? fieldNames
  return {
    value := ← field? fields "value" fun v => some v.toValue
    label := ← field? fields "label" text? }

end SelectOption

namespace Slot

/-- The names of the fields. -/
def fieldNames : List String :=
  ["key", "defaultValue", "validation", "required", "skipIf", "skipUnless"]

/-- A field that is left out if it holds nothing. -/
def conditionField (name : String) (condition : Params) : List (String × Document) :=
  if condition.isEmpty then [] else [(name, (Value.obj condition).toDocument)]

/-- The fields of a slot. -/
def toFields (s : Slot) : List (String × Document) :=
  [("key", .str s.key), ("defaultValue", s.defaultValue.toDocument)] ++
    (match s.validation with
      | some v => [("validation", v.toDocument)]
      | none => []) ++
    [("required", .bool s.required)] ++
    conditionField "skipIf" s.skipIf ++ conditionField "skipUnless" s.skipUnless

/-- The slot of named fields. -/
def ofFields? (fields : Fields Document) : Option Slot := do
  return {
    key := ← fieldOr? fields "key" text? ""
    defaultValue := ← fieldOr? fields "defaultValue" (fun v => some v.toValue) .null
    validation := ← fieldOr? fields "validation" (nullable? Validation.ofDocument?) none
    required := ← fieldOr? fields "required" flag? false
    skipIf := ← fieldOr? fields "skipIf" params? []
    skipUnless := ← fieldOr? fields "skipUnless" params? [] }

/-- The slot of a document. -/
def ofDocument? (d : Document) : Option Slot := do
  ofFields? (← d.record? fieldNames)

end Slot

/-! ## Controls -/

namespace Control

/-- A moment as a document. -/
def momentDocument (m : Calendar.Moment) : Document := .str (m.text "Z")

/-- The moment of a document. -/
def moment? : Document → Option Calendar.Moment
  | .str s => Calendar.Moment.readLoose? s
  | _ => none

/-- The names of the fields of each type. -/
def fieldNames : FragmentType → List String
  | .numberInput => ["min", "max"]
  | .datePicker => ["min", "max", "includeTime"]
  | .select => ["options", "multiple"]
  | .text => ["text"]
  | .textInput | .icon | .hidden => []

/-- A field that is left out if it holds nothing. -/
def momentField (name : String) (m : Option Calendar.Moment) : List (String × Document) :=
  match m with
  | some m => [(name, momentDocument m)]
  | none => []

/-- The fields of a control. -/
def toFields : Control → List (String × Document)
  | .numberInput min max => [("min", .float min), ("max", .float max)]
  | .datePicker min max includeTime =>
    momentField "min" min ++ momentField "max" max ++ [("includeTime", .bool includeTime)]
  | .select options multiple =>
    [("options", .arr (options.map SelectOption.toDocument)), ("multiple", .bool multiple)]
  | .text content => [("text", .str content)]
  | .textInput | .icon | .hidden => []

/-- The control of a type with named fields. -/
def ofFields? (t : FragmentType) (fields : Fields Document) : Option Control :=
  match t with
  | .textInput => some .textInput
  | .numberInput => do
    return .numberInput (← fieldOr? fields "min" bound? .zero) (← fieldOr? fields "max" bound? .zero)
  | .datePicker => do
    return .datePicker (← fieldOr? fields "min" (nullable? moment?) none)
      (← fieldOr? fields "max" (nullable? moment?) none)
      (← fieldOr? fields "includeTime" flag? false)
  | .select => do
    return .select (← fieldOr? fields "options" (list? SelectOption.ofDocument?) [])
      (← fieldOr? fields "multiple" flag? false)
  | .icon => some .icon
  | .text => do
    return .text (← fieldOr? fields "text" text? "")
  | .hidden => some .hidden

end Control

/-! ## Fragments -/

namespace Fragment

/-- A fragment as a document: its type, the fields of its slot, and those of its control. -/
def toDocument (f : Fragment) : Document :=
  .obj (("type", .str f.type.name) :: (f.slot.toFields ++ f.control.toFields))

/-- The fragment of a document whose type is known; what the document says of it is passed over. -/
def ofDocumentAs? (t : FragmentType) (d : Document) : Option Fragment := do
  let fields ← d.fields? (Slot.fieldNames ++ Control.fieldNames t)
  return ⟨← Slot.ofFields? fields, ← Control.ofFields? t fields⟩

/-- The fragment of a document, by the type that it names. -/
def ofDocument? (d : Document) : Option Fragment := do
  let fields ← d.fields? ["type"]
  let t ← field? fields "type" fun d => d.text?.bind FragmentType.ofName?
  ofDocumentAs? t d

end Fragment

end Cohort
