/-! # Types of fragments -/

namespace Cohort

/-- The types of form fragments. -/
inductive FragmentType where
  | textInput
  | numberInput
  | datePicker
  | select
  | icon
  | text
  | hidden
deriving DecidableEq, Repr

namespace FragmentType

/-- All types. -/
def all : List FragmentType :=
  [.textInput, .numberInput, .datePicker, .select, .icon, .text, .hidden]

/-- The name of a type in documents. -/
def name : FragmentType → String
  | .textInput => "TEXT_INPUT"
  | .numberInput => "NUMBER_INPUT"
  | .datePicker => "DATE_PICKER"
  | .select => "SELECT"
  | .icon => "ICON"
  | .text => "TEXT"
  | .hidden => "HIDDEN"

/-- The type of a name. -/
def ofName? (name : String) : Option FragmentType :=
  all.find? fun t => t.name == name

end FragmentType

end Cohort
