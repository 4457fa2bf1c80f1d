import Cohort.Document.Basic
import Cohort.Value.Basic

/-! # Reading records from documents -/

namespace Cohort.Document

/-! ## Simple parts -/

/-- A text. -/
def text? : Document → Option String
  | .str s => some s
  | _ => none

/-- True or false. -/
def flag? : Document → Option Bool
  | .bool b => some b
  | _ => none

/-- A floating-point number; an integer is rounded. -/
def bound? : Document → Option Extended
  | .int n => some (.finite (.ofInt n))
  | .float x => some x
  | _ => none

/-- An object with its fields in order. -/
def params? : Document → Option Params
  | .obj fields => some (Fields.ofList (valueFieldsOf fields))
  | _ => none

/-- A list of like parts. -/
def list? {α : Type} (part : Document → Option α) : Document → Option (List α)
  | .arr items => items.mapM part
  | _ => none

/-- A part that may be null. -/
def nullable? {α : Type} (part : Document → Option α) : Document → Option (Option α)
  | .null => some none
  | d => (part d).map some

/-- A part in whose place null stands for a default. -/
def orDefault? {α : Type} (part : Document → Option α) (default : α) : Document → Option α
  | .null => some default
  | d => part d

/-- Null. -/
def isNull : Document → Bool
  | .null => true
  | _ => false

/-- An object or list without entries. -/
def isEmpty : Document → Bool
  | .arr [] => true
  | .obj [] => true
  | _ => false

/-- A name, written as a text or as the only field of an object; `blank` says what may stand beside
it there. -/
def choice? {α : Type} (blank : Document → Bool) (ofName? : String → Option α) :
    Document → Option α
  | .str name => ofName? name
  | .obj [(name, d)] => if blank d then ofName? name else none
  | _ => none

/-! ## Records -/

/-- Whether no name is written twice. -/
def namedOnce : List (String × Document) → Bool
  | [] => true
  | (name, _) :: rest => !(rest.any fun entry => entry.1 == name) && namedOnce rest

/-- The known fields of an object. None may be written twice; others are passed over. -/
def fields? (names : List String) : Document → Option (Fields Document)
  | .obj fields =>
    let known := fields.filter fun entry => names.contains entry.1
    if namedOnce known then some known else none
  | _ => none

/-- The known fields of a record, written as an object, or as a list of their values in order. -/
def record? (names : List String) : Document → Option (Fields Document)
  | .arr items => if items.length ≤ names.length then some (names.zip items) else none
  | d => d.fields? names

/-- A field that has to be there. -/
def field? {α : Type} (fields : Fields Document) (name : String) (part : Document → Option α) :
    Option α :=
  (fields.get? name).bind part

/-- A field that has a default. -/
def fieldOr? {α : Type} (fields : Fields Document) (name : String) (part : Document → Option α)
    (default : α) : Option α :=
  match fields.get? name with
  | some d => part d
  | none => some default

end Cohort.Document
