import Cohort.Fragment.Condition
import Cohort.Pattern.Reader
import Cohort.Value.Text

/-! # Checking parameters against fragments -/

namespace Cohort

/-- Checks the text of a value against a pattern. The empty pattern asks for nothing. -/
def Validation.check (v : Validation) (key : String) (value : Value) : Except Fault Unit :=
  if v.pattern.isEmpty then .ok ()
  else match Pattern.Regex.read? v.pattern with
    | none => .error (.invalidPattern key)
    | some r =>
      if r.matchesIn value.toText then .ok () else .error (.patternMismatch key v.errorMessage)

/-- Checks the rules that every kind of fragment has. -/
def Slot.validate (s : Slot) (params : Params) : Except Fault Unit := do
  if ← s.shouldSkip params then throw .skipped
  if s.key.isEmpty then return
  let value := params.get? s.key
  if s.required && value.all Value.isNull then throw (.missingParameter s.key)
  match value, s.validation with
  | some value, some validation => validation.check s.key value
  | _, _ => return

/-- The submitted value of a key; null counts as nothing. -/
def submitted (params : Params) (key : String) : Option Value :=
  (params.get? key).filter fun v => !v.isNull

namespace Control

/-- The word for a control that needs a key. -/
def inputName? : Control → Option String
  | .textInput => some "text input"
  | .numberInput _ _ => some "number input"
  | .datePicker _ _ _ => some "date picker"
  | .select _ _ => some "select"
  | _ => none

/-- What has to be right about a fragment itself: inputs have a key, and a choice has options. -/
def checkSetup (c : Control) (key : String) : Except ParameterFault Unit :=
  match c.inputName? with
  | none => .ok ()
  | some name =>
    if key.isEmpty then .error (.noKey name)
    else match c with
      | .select [] _ => .error .noOptions
      | _ => .ok ()

/-- Checks a number against its bounds. -/
def checkBounds (key : String) (min max : Extended) (n : Number) : Except ParameterFault Unit :=
  if !min.isZero && min.above n.toUnits then .error (.tooSmall key min)
  else if !max.isZero && max.below n.toUnits then .error (.tooLarge key max)
  else .ok ()

/-- Reads a date, or a moment if the time is included. -/
def readDate (includeTime : Bool) (s : String) : Option Calendar.Moment :=
  if includeTime then Calendar.Moment.read? s
  else (Calendar.Date.read? s).map Calendar.Moment.ofDate

/-- Checks a moment against its bounds. -/
def checkPeriod (key : String) (min max : Option Calendar.Moment) (m : Calendar.Moment) :
    Except ParameterFault Unit := do
  if let some low := min then
    if m.before low then throw (.tooEarly key low)
  if let some high := max then
    if high.before m then throw (.tooLate key high)

/-- Checks that every item is offered. -/
def checkOffered (key : String) (options : List SelectOption) (items : List Value) :
    Except ParameterFault Unit :=
  if items.all fun v => options.any fun o => o.value.same v then .ok () else .error (.notOffered key)

/-- Checks a submitted value by the rules of a control. -/
def check (key : String) (v : Value) : Control → Except ParameterFault Unit
  | .textInput =>
    match v with
    | .str _ => .ok ()
    | _ => .error (.notText key)
  | .numberInput min max =>
    match v with
    | .num n => checkBounds key min max n
    | _ => .error (.notNumber key)
  | .datePicker min max includeTime =>
    match v with
    | .str s =>
      match readDate includeTime s with
      | some m => checkPeriod key min max m
      | none => .error (.notDate key)
    | _ => .error (.notDateText key)
  | .select options multiple =>
    if multiple then
      match v.toList? with
      | some items => checkOffered key options items
      | none => .error (.notList key)
    else checkOffered key options [v]
  | .icon | .text _ | .hidden => .ok ()

end Control

namespace Fragment

/-- Turns a fault of a parameter into a fault. -/
def parameter (r : Except ParameterFault Unit) : Except Fault Unit :=
  match r with
  | .ok () => .ok ()
  | .error fault => .error (.invalidParameter fault)

/-- Checks the parameters that a fragment governs: its setup first, then the rules of every fragment,
then those of its kind. A fragment that is not asked for answers that it is skipped. -/
def validate (f : Fragment) (params : Params) : Except Fault Unit := do
  parameter (f.control.checkSetup f.slot.key)
  f.slot.validate params
  match submitted params f.slot.key with
  | none => return
  | some v => parameter (f.control.check f.slot.key v)

end Fragment

end Cohort
