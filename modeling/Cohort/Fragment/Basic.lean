import Cohort.Calendar.Moment
import Cohort.Fragment.FragmentType
import Cohort.Value.Basic

/-! # Fragments of a form -/

namespace Cohort

/-- A pattern that the text of a value has to match, and what is said if it does not. -/
structure Validation where
  pattern : String
  errorMessage : String := ""
deriving DecidableEq, Repr

/-- The parameter that a fragment stands for, and the rules that every kind of fragment has. A
fragment without a key is content only. -/
structure Slot where
  key : String := ""
  defaultValue : Value := .null
  validation : Option Validation := none
  required : Bool := false
  skipIf : Params := []
  skipUnless : Params := []

instance : Inhabited Slot := ⟨{}⟩

/-- Something to choose. -/
structure SelectOption where
  value : Value
  label : String

/-- What a fragment shows, with the rules of its kind. -/
inductive Control where
  | textInput
  /-- A number; a bound of zero is no bound. -/
  | numberInput (min max : Extended)
  /-- A date, or a moment if the time is included. -/
  | datePicker (min max : Option Calendar.Moment) (includeTime : Bool)
  /-- A choice, or a list of choices. -/
  | select (options : List SelectOption) (multiple : Bool)
  | icon
  | text (text : String)
  | hidden

/-- A fragment: one part of a form. -/
structure Fragment where
  slot : Slot
  control : Control

/-- The type of a control. -/
def Control.type : Control → FragmentType
  | .textInput => .textInput
  | .numberInput _ _ => .numberInput
  | .datePicker _ _ _ => .datePicker
  | .select _ _ => .select
  | .icon => .icon
  | .text _ => .text
  | .hidden => .hidden

/-- The control of a type with nothing set. -/
def Control.empty : FragmentType → Control
  | .textInput => .textInput
  | .numberInput => .numberInput .zero .zero
  | .datePicker => .datePicker none none false
  | .select => .select [] false
  | .icon => .icon
  | .text => .text ""
  | .hidden => .hidden

/-- The type of a fragment. -/
def Fragment.type (f : Fragment) : FragmentType := f.control.type

/-- The fragment of a type with nothing set. -/
def Fragment.empty (t : FragmentType) : Fragment := ⟨{}, .empty t⟩

end Cohort
