import Cohort.Text.Quoted
import Cohort.Value.Basic

/-! # What can be wrong with a template or its data -/

namespace Cohort.Template

/-! ## Reading -/

/-- The blocks that an `end` closes. -/
inductive BlockKind where
  | branches
  | range
  | scope
deriving DecidableEq, Repr

/-- The word that opens a block. -/
def BlockKind.keyword : BlockKind → String
  | .branches => "if"
  | .range => "range"
  | .scope => "with"

/-- Why a source is no template. -/
inductive ParseFault where
  | unclosedAction
  | unclosedComment
  | emptyAction
  /-- An action is followed by something that does not belong to it. -/
  | unexpectedRest (rest : String)
  | malformedAction (body : String)
  | tooManyDeclarations
  | undefinedFunction (name : String)
  | operandAsStage
  | strayEnd
  | strayElse
  /-- An `else if` in a block that takes only an `else`. -/
  | elseIfInside (block : BlockKind)
  /-- The source ends inside a block. -/
  | unclosedBlock (block : BlockKind)
  /-- The source ends behind an `else`. -/
  | unclosedElse
  /-- Another `else` behind an `else`. -/
  | secondElse
deriving DecidableEq, Repr

/-- The message of a fault. -/
def ParseFault.message : ParseFault → String
  | .unclosedAction => "unclosed action"
  | .unclosedComment => "unclosed comment"
  | .emptyAction => "missing value for command"
  | .unexpectedRest rest => "unexpected " ++ Text.quoted rest ++ " in action"
  | .malformedAction body => "malformed action " ++ Text.quoted body
  | .tooManyDeclarations => "too many declarations in command"
  | .undefinedFunction name => "function " ++ Text.quoted name ++ " not defined"
  | .operandAsStage => "non-function command in pipeline stage"
  | .strayEnd => "unexpected \x7b\x7bend\x7d\x7d"
  | .strayElse => "unexpected \x7b\x7belse\x7d\x7d"
  | .elseIfInside block => "\x7b\x7belse if\x7d\x7d not allowed in " ++ block.keyword
  | .unclosedBlock block => "unexpected EOF in " ++ block.keyword
  | .unclosedElse => "unexpected EOF in else"
  | .secondElse => "expected \x7b\x7bend\x7d\x7d after \x7b\x7belse\x7d\x7d"

/-! ## Evaluating -/

/-- Why a template cannot be evaluated on some data. -/
inductive ExecFault where
  | argumentCount (function : String) (want got : Nat)
  | tooFewArguments (function : String) (want got : Nat)
  | wrongType (function expected : String) (got : ValueKind)
  | lengthOf (got : ValueKind)
  | incomparable (function : String) (left right : ValueKind)
  | indexOutOfRange (index : Number)
  | notIndexable (container key : ValueKind)
  | notQuotable (got : ValueKind)
  | notQuotableList (got : ValueKind)
  | bareVerb
  | missingOperand (verb : Char)
  | unsupportedVerb (verb : Char)
  | extraOperands (count : Nat)
  | undefinedFunction (name : String)
  | notIterable (got : ValueKind)
  | undefinedVariable (name : String)
  | noField (name : String) (container : ValueKind)
deriving DecidableEq, Repr

/-- The message of a fault. -/
def ExecFault.message : ExecFault → String
  | .argumentCount f want got =>
    "wrong number of args for " ++ f ++ ": want " ++ intText want ++ " got " ++ intText got
  | .tooFewArguments f want got =>
    "wrong number of args for " ++ f ++ ": want at least " ++ intText want ++ " got " ++ intText got
  | .wrongType f expected got =>
    "wrong type for value in " ++ f ++ "; expected " ++ expected ++ "; got " ++ got.name
  | .lengthOf got => "len of type " ++ got.name
  | .incomparable f left right =>
    f ++ ": incompatible types for comparison: " ++ left.name ++ " and " ++ right.name
  | .indexOutOfRange n => "index out of range: " ++ n.documentText
  | .notIndexable container key =>
    "can't index item of type " ++ container.name ++ " with " ++ key.name
  | .notQuotable got => "quote only accepts string-like types, got " ++ got.name
  | .notQuotableList got => "quoteJoin only accepts slice, got " ++ got.name
  | .bareVerb => "printf: format ends with a bare %"
  | .missingOperand verb => "printf: missing operand for %" ++ verb.toString
  | .unsupportedVerb verb => "printf: unsupported verb %" ++ verb.toString
  | .extraOperands count => "printf: " ++ intText count ++ " extra operands"
  | .undefinedFunction name => "function " ++ Text.quoted name ++ " not defined"
  | .notIterable got => "range can't iterate over " ++ got.name
  | .undefinedVariable name => "undefined variable: " ++ name
  | .noField name container => "can't evaluate field " ++ name ++ " in type " ++ container.name

/-! ## Both -/

/-- What can be wrong with a template. -/
inductive Fault where
  | parse (line : Nat) (fault : ParseFault)
  | exec (fault : ExecFault)
deriving DecidableEq, Repr

/-- The message of a fault. -/
def Fault.message : Fault → String
  | .parse line fault =>
    "template parse error at line " ++ intText line ++ ": " ++ fault.message
  | .exec fault => "template execution error: " ++ fault.message

end Cohort.Template
