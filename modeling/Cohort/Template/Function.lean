import Cohort.Template.Fault
import Cohort.Text.Noun
import Cohort.Text.WordCase
import Cohort.Value.Equality
import Cohort.Value.Text

/-! # Functions that a template can call -/

namespace Cohort.Template

/-! ## Names -/

/-- The functions that bind values. -/
inductive Binder where
  /-- `arg`: one value -/
  | one
  /-- `argEach`: each item of a list -/
  | each
deriving DecidableEq, Repr

/-- The name of a binding function. -/
def Binder.name : Binder → String
  | .one => "arg"
  | .each => "argEach"

/-- The binding function of a name. -/
def Binder.ofName? : String → Option Binder
  | "arg" => some .one
  | "argEach" => some .each
  | _ => none

/-- The functions that only compute. -/
inductive Function where
  | eq | ne | lt | le | gt | ge
  | and | or | not
  | len | index
  | print | printf | println
  | toLower | toUpper
  | trim | trimSuffix
  | hasStart | hasEnd
  | replaceAll | split | join
  | camelCase | snakeCase | pascalCase | kebabCase | capitalize
  | plural | singular
  | singleQuote | backtickQuote
  | singleQuoteJoin | backtickQuoteJoin
deriving DecidableEq, Repr

/-- All functions that only compute. -/
def Function.all : List Function :=
  [.eq, .ne, .lt, .le, .gt, .ge, .and, .or, .not, .len, .index, .print, .printf, .println,
   .toLower, .toUpper, .trim, .trimSuffix, .hasStart, .hasEnd, .replaceAll, .split, .join,
   .camelCase, .snakeCase, .pascalCase, .kebabCase, .capitalize, .plural, .singular,
   .singleQuote, .backtickQuote, .singleQuoteJoin, .backtickQuoteJoin]

/-- The name of a function. -/
def Function.name : Function → String
  | .eq => "eq" | .ne => "ne" | .lt => "lt" | .le => "le" | .gt => "gt" | .ge => "ge"
  | .and => "and" | .or => "or" | .not => "not"
  | .len => "len" | .index => "index"
  | .print => "print" | .printf => "printf" | .println => "println"
  | .toLower => "toLower" | .toUpper => "toUpper"
  | .trim => "trim" | .trimSuffix => "trimSuffix"
  | .hasStart => "hasPrefix" | .hasEnd => "hasSuffix"
  | .replaceAll => "replaceAll" | .split => "split" | .join => "join"
  | .camelCase => "camelCase" | .snakeCase => "snakeCase" | .pascalCase => "pascalCase"
  | .kebabCase => "kebabCase" | .capitalize => "capitalize"
  | .plural => "plural" | .singular => "singular"
  | .singleQuote => "singleQuote" | .backtickQuote => "backtickQuote"
  | .singleQuoteJoin => "singleQuoteJoin" | .backtickQuoteJoin => "backtickQuoteJoin"

/-- The function of a name. -/
def Function.ofName? (name : String) : Option Function :=
  Function.all.find? fun f => f.name == name

/-- Whether a name is the name of a function. -/
def isDefined (name : String) : Bool :=
  (Binder.ofName? name).isSome || (Function.ofName? name).isSome

/-! ## Arguments -/

/-- What a function gives. -/
abbrev Outcome := Except ExecFault Value

/-- One argument. -/
def oneArg (f : String) : List Value → Except ExecFault Value
  | [a] => .ok a
  | args => .error (.argumentCount f 1 args.length)

/-- Two arguments. -/
def twoArgs (f : String) : List Value → Except ExecFault (Value × Value)
  | [a, b] => .ok (a, b)
  | args => .error (.argumentCount f 2 args.length)

/-- Three arguments. -/
def threeArgs (f : String) : List Value → Except ExecFault (Value × Value × Value)
  | [a, b, c] => .ok (a, b, c)
  | args => .error (.argumentCount f 3 args.length)

/-- A text. -/
def text (f : String) : Value → Except ExecFault String
  | .str s => .ok s
  | v => .error (.wrongType f "string" v.kind)

/-- One text. -/
def oneText (f : String) (args : List Value) : Except ExecFault String := do
  text f (← oneArg f args)

/-- Two texts. -/
def twoTexts (f : String) (args : List Value) : Except ExecFault (String × String) := do
  let (a, b) ← twoArgs f args
  let a ← text f a
  let b ← text f b
  return (a, b)

/-- Three texts. -/
def threeTexts (f : String) (args : List Value) :
    Except ExecFault (String × String × String) := do
  let (a, b, c) ← threeArgs f args
  let a ← text f a
  let b ← text f b
  let c ← text f c
  return (a, b, c)

/-! ## Comparing and choosing -/

/-- Whether the first argument is the same as any of the others. -/
def equalAny : List Value → Outcome
  | a :: b :: rest => .ok (.bool ((b :: rest).any (Value.same a)))
  | args => .error (.tooFewArguments "eq" 2 args.length)

/-- The order of two numbers or of two texts. -/
def order? : Value → Value → Option Ordering
  | .num a, .num b => some (a.order b)
  | .str a, .str b => some (compare a b)
  | _, _ => none

/-- Whether the order of two arguments is accepted. -/
def compareBy (f : String) (accept : Ordering → Bool) (args : List Value) : Outcome := do
  let (a, b) ← twoArgs f args
  match order? a b with
  | some o => return .bool (accept o)
  | none => throw (.incomparable f a.kind b.kind)

/-- The first argument whose truth is the given one, or else the last argument. -/
def firstWith (f : String) (truth : Bool) : List Value → Outcome
  | [] => .error (.tooFewArguments f 1 0)
  | a :: rest =>
    .ok (((a :: rest).find? fun v => v.isTruthy == truth).getD ((a :: rest).getLastD a))

/-! ## Lengths and items -/

/-- The length of a text in bytes, or the number of items. -/
def length : Value → Outcome
  | .str s => .ok (.ofNat s.utf8ByteSize)
  | .arr items => .ok (.ofNat items.length)
  | .obj fields => .ok (.ofNat fields.length)
  | .null => .ok (.ofNat 0)
  | v => .error (.lengthOf v.kind)

/-- An item of a list or a field of an object. What is missing in an object or in null is null. -/
def item : Value → Value → Outcome
  | .arr items, .num (.int i) =>
    if 0 ≤ i then
      match items[i.toNat]? with
      | some v => .ok v
      | none => .error (.indexOutOfRange (.int i))
    else .error (.indexOutOfRange (.int i))
  | .arr _, .num n => .error (.indexOutOfRange n)
  | .obj fields, .str key => .ok ((Fields.get? fields key).getD .null)
  | .null, _ => .ok .null
  | container, key => .error (.notIndexable container.kind key.kind)

/-- The item reached by several keys. -/
def itemUnder : List Value → Outcome
  | [] => .error (.tooFewArguments "index" 1 0)
  | container :: keys => keys.foldlM item container

/-! ## Printing -/

/-- Values in plain text, with a blank between two that are no texts. -/
def printed : Option Value → List Value → String
  | _, [] => ""
  | before, v :: rest =>
    let isText := fun (v : Value) => v.kind == .string
    let blank := match before with
      | some b => !isText b && !isText v
      | none => false
    (if blank then " " else "") ++ v.toText ++ printed (some v) rest

/-- The nearest signed 64-bit integer. -/
def clamp64 (n : Int) : Int := max (-(signedBound : Int)) (min n (signedBound - 1))

/-- A number as a signed 64-bit integer. An integer that is too large is rounded first, and what lies
outside becomes the nearest that does not; other fractions are refused. -/
def signed64? : Number → Option Int
  | .int n => if n < signedBound then some n else some (clamp64 (Binary64.ofInt n).truncate)
  | .float x => if x.isWhole then some (clamp64 x.truncate) else none

/-- An operand printed by a verb. -/
def formatVerb (verb : Char) (operand : Value) : Except ExecFault String :=
  match verb with
  | 'v' | 's' => .ok operand.toText
  | 'q' => .ok (Text.quoted operand.toText)
  | 'd' =>
    match operand with
    | .num n =>
      match signed64? n with
      | some n => .ok (intText n)
      | none => .error (.wrongType "printf" "integer" .number)
    | v => .error (.wrongType "printf" "integer" v.kind)
  | verb => .error (.unsupportedVerb verb)

/-- A format with its verbs replaced by operands, in order; every operand is used. -/
def formatted : List Char → List Value → Except ExecFault String
  | [], [] => .ok ""
  | [], operands => .error (.extraOperands operands.length)
  | '%' :: '%' :: rest, operands => do
    return "%" ++ (← formatted rest operands)
  | ['%'], _ => .error .bareVerb
  | '%' :: verb :: _, [] => .error (.missingOperand verb)
  | '%' :: verb :: rest, operand :: operands => do
    let s ← formatVerb verb operand
    return s ++ (← formatted rest operands)
  | c :: rest, operands => do
    return c.toString ++ (← formatted rest operands)

/-- Formats its first argument with the others. -/
def printFormat : List Value → Outcome
  | [] => .error (.tooFewArguments "printf" 1 0)
  | format :: operands => do
    let format ← text "printf" format
    return .str (← formatted format.toList operands)

/-! ## Quoting -/

/-- A text between quotes, with the quotes inside it doubled. -/
def quoteText (s : String) (quote : Char) : String :=
  String.ofList (quote :: s.toList.flatMap (fun c => if c = quote then [c, c] else [c]) ++ [quote])

/-- A text between quotes; other values are refused. -/
def quoteValue (quote : Char) : Value → Except ExecFault String
  | .str s => .ok (quoteText s quote)
  | v => .error (.notQuotable v.kind)

/-- Quoted texts behind one another, with a separator. -/
def quoteJoin (quote : Char) (args : List Value) : Outcome := do
  let (sep, values) ← twoArgs "quoteJoin" args
  let sep ← text "quoteJoin" sep
  match values with
  | .arr items => return .str (String.intercalate sep (← items.mapM (quoteValue quote)))
  | v => throw (.notQuotableList v.kind)

/-! ## Calling -/

/-- Applies a function to its arguments. -/
def Function.apply (f : Function) (args : List Value) : Outcome :=
  let name := f.name
  let mapText := fun (change : String → String) => do
    return Value.str (change (← oneText name args))
  match f with
  | .eq => equalAny args
  | .ne => do
    let (a, b) ← twoArgs name args
    return .bool (!a.same b)
  | .lt => compareBy name (· == .lt) args
  | .le => compareBy name (· != .gt) args
  | .gt => compareBy name (· == .gt) args
  | .ge => compareBy name (· != .lt) args
  | .and => firstWith name false args
  | .or => firstWith name true args
  | .not => do
    return .bool (!(← oneArg name args).isTruthy)
  | .len => do
    length (← oneArg name args)
  | .index => itemUnder args
  | .print => .ok (.str (printed none args))
  | .println => .ok (.str (String.intercalate " " (Value.textsOf args) ++ "\n"))
  | .printf => printFormat args
  | .toLower => mapText Text.toLower
  | .toUpper => mapText Text.toUpper
  | .trim => do
    let (s, cutset) ← twoTexts name args
    return .str (String.ofList (Text.trimWhile cutset.toList.contains s.toList))
  | .trimSuffix => do
    let (s, ending) ← twoTexts name args
    return .str (((Text.dropSuffix? ending.toList s.toList).map String.ofList).getD s)
  | .hasStart => do
    let (s, start) ← twoTexts name args
    return .bool (Text.dropPrefix? start.toList s.toList).isSome
  | .hasEnd => do
    let (s, ending) ← twoTexts name args
    return .bool (Text.dropSuffix? ending.toList s.toList).isSome
  | .replaceAll => do
    let (s, old, new) ← threeTexts name args
    return .str (String.ofList (Text.replace old.toList new.toList s.toList))
  | .split => do
    let (s, sep) ← twoTexts name args
    return .arr ((Text.split sep.toList s.toList).map fun piece => .str (String.ofList piece))
  | .join => do
    let (elems, sep) ← twoArgs name args
    match elems with
    | .arr items => return .str (String.intercalate (← text name sep) (Value.textsOf items))
    | v => throw (.wrongType name "array" v.kind)
  | .camelCase => mapText Text.camelCase
  | .snakeCase => mapText Text.snakeCase
  | .pascalCase => mapText Text.pascalCase
  | .kebabCase => mapText Text.kebabCase
  | .capitalize => mapText Text.capitalize
  | .plural => mapText Text.plural
  | .singular => mapText Text.singular
  | .singleQuote => do
    return .str (← quoteValue '\'' (← oneArg name args))
  | .backtickQuote => do
    return .str (← quoteValue '`' (← oneArg name args))
  | .singleQuoteJoin => quoteJoin '\'' args
  | .backtickQuoteJoin => quoteJoin '`' args

/-- Calls a function by its name. -/
def call (name : String) (args : List Value) : Outcome :=
  match Function.ofName? name with
  | some f => f.apply args
  | none => .error (.undefinedFunction name)

end Cohort.Template
