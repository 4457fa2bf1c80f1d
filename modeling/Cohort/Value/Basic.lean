import Cohort.Document.Basic

/-! # Parameter values -/

namespace Cohort

/-- The value of a parameter. The fields of an object have distinct names in ascending order. -/
inductive Value where
  | null
  | bool (b : Bool)
  | num (n : Number)
  | str (s : String)
  | arr (items : List Value)
  | obj (fields : List (String × Value))

instance : Inhabited Value := ⟨.null⟩

/-- The parameters submitted for one tag. -/
abbrev Params := Fields Value

/-- What kind of value a value is. -/
inductive ValueKind where
  | null
  | bool
  | number
  | string
  | array
  | object
deriving DecidableEq, Repr

/-- The name of a kind in messages. -/
def ValueKind.name : ValueKind → String
  | .null => "null"
  | .bool => "bool"
  | .number => "number"
  | .string => "string"
  | .array => "array"
  | .object => "object"

namespace Value

/-- The kind of a value. -/
def kind : Value → ValueKind
  | .null => .null
  | .bool _ => .bool
  | .num _ => .number
  | .str _ => .string
  | .arr _ => .array
  | .obj _ => .object

/-- Whether a value is null. -/
def isNull : Value → Bool
  | .null => true
  | _ => false

/-- An integer. -/
def ofNat (n : Nat) : Value := .num (.int n)

/-! ## Values as documents -/

mutual

/-- A value as a document. -/
def toDocument : Value → Document
  | .null => .null
  | .bool b => .bool b
  | .num (.int n) => .int n
  | .num (.float x) => .float (.finite x)
  | .str s => .str s
  | .arr items => .arr (documentsOf items)
  | .obj fields => .obj (documentFieldsOf fields)

/-- Values as documents. -/
def documentsOf : List Value → List Document
  | [] => []
  | v :: rest => v.toDocument :: documentsOf rest

/-- Named values as documents. -/
def documentFieldsOf : List (String × Value) → List (String × Document)
  | [] => []
  | (name, v) :: rest => (name, v.toDocument) :: documentFieldsOf rest

end

end Value

namespace Document

mutual

/-- The value that a document stands for. Fields are put in order, of a repeated name the last one
counts, and what is no finite number is null. -/
def toValue : Document → Value
  | .null => .null
  | .bool b => .bool b
  | .int n => .num (.int n)
  | .float (.finite x) => .num (.float x)
  | .float _ => .null
  | .str s => .str s
  | .arr items => .arr (valuesOf items)
  | .obj fields => .obj (Fields.ofList (valueFieldsOf fields))

/-- The values that documents stand for. -/
def valuesOf : List Document → List Value
  | [] => []
  | d :: rest => d.toValue :: valuesOf rest

/-- The named values that fields stand for, in written order. -/
def valueFieldsOf : List (String × Document) → List (String × Value)
  | [] => []
  | (name, d) :: rest => (name, d.toValue) :: valueFieldsOf rest

end

end Document

end Cohort
