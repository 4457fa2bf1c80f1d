import Cohort.Calendar.Moment
import Cohort.Fragment.FragmentType
import Cohort.Template.Fault

/-! # What can go wrong -/

namespace Cohort

/-! ## Causes -/

/-- The kinds of entries of a registry. -/
inductive EntryKind where
  | category
  | builder
  | fragment
deriving DecidableEq, Repr

/-- The word for an entry in messages. -/
def EntryKind.word : EntryKind → String
  | .category => "category"
  | .builder => "builder"
  | .fragment => "fragment"

/-- The two clauses of a skip condition. -/
inductive SkipClause where
  | skipIf
  | skipUnless
deriving DecidableEq, Repr

/-- The name of a clause. -/
def SkipClause.name : SkipClause → String
  | .skipIf => "skipIf"
  | .skipUnless => "skipUnless"

/-- Why a skip condition cannot be evaluated. -/
inductive ConditionFault where
  | operatorsExpected (field : String)
  | missingField (field : String)
  | noOperators
  | listExpected (got : ValueKind)
  | unknownOperator (op : String)
deriving DecidableEq, Repr

/-- The message of a fault. -/
def ConditionFault.message : ConditionFault → String
  | .operatorsExpected field => "expression for field " ++ Text.quoted field ++ " must be a map type"
  | .missingField field =>
    "field " ++ Text.quoted field ++ " referenced in condition does not exist"
  | .noOperators => "no valid operators found in expression"
  | .listExpected got => "IN operator requires a slice or array, got " ++ got.name
  | .unknownOperator op => "unsupported operator " ++ Text.quoted op

/-- Why a parameter is not what its fragment asks for. -/
inductive ParameterFault where
  /-- The fragment itself has no key. -/
  | noKey (control : String)
  /-- The fragment itself offers nothing to choose from. -/
  | noOptions
  | notText (key : String)
  | notNumber (key : String)
  | tooSmall (key : String) (bound : Extended)
  | tooLarge (key : String) (bound : Extended)
  | notDateText (key : String)
  | notDate (key : String)
  | tooEarly (key : String) (bound : Calendar.Moment)
  | tooLate (key : String) (bound : Calendar.Moment)
  | notList (key : String)
  | notOffered (key : String)
  /-- A check of the builder's own. -/
  | custom (message : String)
deriving DecidableEq, Repr

/-- The value of a key in messages. -/
def valueFor (key : String) : String := "value for " ++ Text.quoted key ++ " "

/-- The message of a fault. -/
def ParameterFault.message : ParameterFault → String
  | .noKey control => control ++ " fragment must have a non-empty key"
  | .noOptions => "select fragment must have at least one option"
  | .notText key => valueFor key ++ "must be a string"
  | .notNumber key => valueFor key ++ "must be a number"
  | .tooSmall key bound => valueFor key ++ "must be at least " ++ bound.plainText
  | .tooLarge key bound => valueFor key ++ "must be at most " ++ bound.plainText
  | .notDateText key => valueFor key ++ "must be a date string"
  | .notDate key => valueFor key ++ "must be a valid date"
  | .tooEarly key bound => valueFor key ++ "must not be before " ++ bound.text "+00:00"
  | .tooLate key bound => valueFor key ++ "must not be after " ++ bound.text "+00:00"
  | .notList key => valueFor key ++ "must be an array"
  | .notOffered key => valueFor key ++ "contains an invalid option"
  | .custom message => message

/-- Why a node of an expression is not well formed. -/
inductive ExpressionFault where
  | exceptTooShort
  | notOneField
deriving DecidableEq, Repr

/-- The message of a fault. -/
def ExpressionFault.message : ExpressionFault → String
  | .exceptTooShort => "except must have at least 2 expressions"
  | .notOneField => "expression must have exactly one non-empty field"

/-- What is wrong with a configuration. -/
inductive SettingsFault where
  | unknownDialect (name : String)
  | fileNotFound (path : String)
  | fragmentsNotList (got : ValueKind)
  | viewNotObject (got : ValueKind)
deriving DecidableEq, Repr

/-- The message of a fault. -/
def SettingsFault.message : SettingsFault → String
  | .unknownDialect name => "unknown dialect: " ++ Text.quoted name
  | .fileNotFound path => "config file " ++ path ++ " not found"
  | .fragmentsNotList got => "view fragments must be an array, got " ++ got.name
  | .viewNotObject got => "view must be an object, got " ++ got.name

/-! ## Faults -/

/-- What can go wrong when entries are registered, parameters are checked and tags are compiled. -/
inductive Fault where
  | duplicate (entry : EntryKind) (id : String)
  | unknownCategory (id : String)
  | prototypeMismatch (expected got : FragmentType)
  | unknownFragmentType (name : String)
  /-- No failure: the fragment is not asked for. -/
  | skipped
  | missingParameter (key : String)
  | patternMismatch (key errorMessage : String)
  | invalidPattern (key : String)
  | invalidParameter (fault : ParameterFault)
  | condition (clause : SkipClause) (fault : ConditionFault)
  | invalidExpression (fault : ExpressionFault)
  | builderNotFound (id : String)
  /-- The builder has no query to give. -/
  | descriptiveOnly (id : String)
  /-- A tag could not be built. -/
  | build (builderId : String) (cause : Fault)
  | template (fault : Template.Fault)
  | json
  | toml
  | settings (fault : SettingsFault)
  | io
deriving Repr

namespace Fault

/-- The message of a fault. Of a text that is no JSON, no TOML or no pattern, and of a failed access
to a file, only the kind is told. -/
def message : Fault → String
  | .duplicate entry id => entry.word ++ " with ID " ++ Text.quoted id ++ " already registered"
  | .unknownCategory id => "category with ID " ++ Text.quoted id ++ " not found"
  | .prototypeMismatch expected got =>
    "fragment type mismatch: expected " ++ expected.name ++ ", got " ++ got.name
  | .unknownFragmentType name => "unknown fragment type: " ++ Text.quoted name
  | .skipped => "validation should be skipped"
  | .missingParameter key => "required parameter missing: " ++ key
  | .patternMismatch key errorMessage =>
    if errorMessage.isEmpty then
      "value for " ++ Text.quoted key ++ " does not match required pattern"
    else errorMessage
  | .invalidPattern key => "invalid validation pattern for " ++ Text.quoted key
  | .invalidParameter fault => fault.message
  | .condition clause fault =>
    "checking if validation should be skipped: evaluating " ++ clause.name ++ " condition: " ++
      fault.message
  | .invalidExpression fault => "invalid expression: " ++ fault.message
  | .builderNotFound id => "builder not found: " ++ id
  | .descriptiveOnly id => "builder " ++ id ++ " does not implement SqlBuilder"
  | .build id cause => "failed to build SQL for tag " ++ id ++ ": " ++ cause.message
  | .template fault => fault.message
  | .json => "JSON error"
  | .toml => "TOML error"
  | .settings fault => "Configuration error: " ++ fault.message
  | .io => "IO error"

/-- The whole message is told: no part of it is known by its kind alone. -/
def isTold : Fault → Bool
  | .json | .toml | .io | .invalidPattern _ => false
  | .build _ cause => cause.isTold
  | _ => true

/-- Whether the one who sent the request is at fault, and not the setup. -/
def isClient : Fault → Bool
  | .missingParameter _ | .patternMismatch _ _ | .invalidParameter _ | .condition _ _
  | .invalidExpression _ | .builderNotFound _ | .descriptiveOnly _ | .json => true
  | .build _ cause => cause.isClient
  | _ => false

/-- The message followed by that of each cause in turn. -/
def chain : Fault → String
  | .build id cause => (Fault.build id cause).message ++ ": " ++ cause.chain
  | f => f.message

end Fault

end Cohort
