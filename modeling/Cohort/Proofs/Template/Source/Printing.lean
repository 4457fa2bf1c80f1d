import Cohort.Template.Assembly
import Mathlib.Data.List.Infix

/-! # The source of a tree

Every tree that can be written has one canonical source: one space inside the braces and between
the parts of an action, and of the characters of a text only the quote and the backslash escaped.
-/

namespace Cohort.Template

open Text

/-! ## Operands, commands and pipelines -/

/-- A character of a text in double quotes. -/
def escaped (c : Char) : List Char :=
  if c = '"' ∨ c = '\\' then ['\\', c] else [c]

/-- A literal. Lists, objects and floating-point numbers have none. -/
def literalSource : Value → List Char
  | .null => ['n', 'i', 'l']
  | .bool true => ['t', 'r', 'u', 'e']
  | .bool false => ['f', 'a', 'l', 's', 'e']
  | .num (.int n) => (intText n).toList
  | .str s => '"' :: (s.toList.flatMap escaped ++ ['"'])
  | _ => []

/-- Fields, each behind a dot. -/
def pathSource (path : List String) : List Char :=
  path.flatMap fun field => '.' :: field.toList

/-- Variables, each behind a comma. -/
def moreSource (vs : List String) : List Char :=
  vs.flatMap fun v => ',' :: ' ' :: v.toList

/-- The declarations at the start of a pipeline. -/
def declsSource : List String → List Char
  | [] => []
  | v :: vs => v.toList ++ (moreSource vs ++ [' ', ':', '=', ' '])

mutual

/-- The source of an operand. -/
def Operand.source : Operand → List Char
  | .field [] => ['.']
  | .field (name :: path) => pathSource (name :: path)
  | .variable name path => name.toList ++ pathSource path
  | .literal v => literalSource v
  | .group p path => '(' :: (p.source ++ ')' :: pathSource path)

/-- The arguments of a function, each behind a space. -/
def argsSource : List Operand → List Char
  | [] => []
  | o :: rest => ' ' :: (o.source ++ argsSource rest)

/-- The source of a command. -/
def Command.source : Command → List Char
  | .call name args => name.toList ++ argsSource args
  | .operand o => o.source

/-- The stages of a pipeline behind its first, each behind a bar. -/
def stagesSource : List Command → List Char
  | [] => []
  | c :: rest => ' ' :: '|' :: ' ' :: (c.source ++ stagesSource rest)

/-- The source of a pipeline. -/
def Pipeline.source : Pipeline → List Char
  | .mk decls [] => declsSource decls
  | .mk decls (c :: rest) => declsSource decls ++ (c.source ++ stagesSource rest)

end

/-- A pipeline behind a word. -/
def Pipeline.behind (word : String) (p : Pipeline) : List Char :=
  word.toList ++ ' ' :: p.source

/-- The body of an action. -/
def Action.source : Action → List Char
  | .ifOpens p => p.behind "if"
  | .elseIf p => p.behind "else if"
  | .elseAlone => "else".toList
  | .endBlock => "end".toList
  | .rangeOpens p => p.behind "range"
  | .scopeOpens p => p.behind "with"
  | .print p => p.source

/-! ## Trees -/

/-- What a source is made of. -/
inductive Token where
  | text (s : String)
  | action (a : Action)

/-- The body of an action with the space around it. -/
def Action.padded (a : Action) : List Char := ' ' :: (a.source ++ [' '])

/-- An action in braces, or text as it stands. -/
def Token.source : Token → List Char
  | .text s => s.toList
  | .action a => ['\x7b', '\x7b'] ++ (a.padded ++ ['\x7d', '\x7d'])

mutual

/-- The tokens of a node. -/
def Node.tokens : Node → List Token
  | .text s => [.text s]
  | .action p => [.action (.print p)]
  | .branches conditions otherwise => branchTokens .ifOpens conditions ++ endTokens otherwise
  | .range p body otherwise => .action (.rangeOpens p) :: (tokensOf body ++ endTokens otherwise)
  | .scope p body otherwise => .action (.scopeOpens p) :: (tokensOf body ++ endTokens otherwise)

/-- The tokens of some nodes. -/
def tokensOf : List Node → List Token
  | [] => []
  | n :: rest => n.tokens ++ tokensOf rest

/-- The tokens of branches. The first one opens the block. -/
def branchTokens (opens : Pipeline → Action) : List (Pipeline × List Node) → List Token
  | [] => []
  | (p, body) :: rest => .action (opens p) :: (tokensOf body ++ branchTokens .elseIf rest)

/-- The tokens from the last part of a block on. -/
def endTokens : Option (List Node) → List Token
  | none => [.action .endBlock]
  | some nodes => .action .elseAlone :: (tokensOf nodes ++ [.action .endBlock])

end

/-- The source of some nodes. -/
def Node.source (nodes : List Node) : String :=
  String.ofList ((tokensOf nodes).flatMap Token.source)

/-! ## Trees that can be written -/

/-- A name. -/
def isName (s : String) : Bool :=
  match s.toList with
  | [] => false
  | c :: rest => isNameStart c && rest.all isNameChar

/-- A dollar sign and the characters of a name, if any. -/
def isVariable (s : String) : Bool :=
  match s.toList with
  | '$' :: rest => rest.all isNameChar
  | _ => false

/-- A constant, a text, or an integer of 64 bits with a sign. -/
def isLiteral : Value → Bool
  | .null | .bool _ | .str _ => true
  | .num (.int n) => -(signedBound : Int) ≤ n && n < signedBound
  | _ => false

/-- Text in which no action starts, nor at its end. -/
def isText (s : String) : Bool :=
  !s.toList.isEmpty && !decide (['\x7b', '\x7b'] <:+: s.toList) && s.toList.getLast? != some '\x7b'

/-- A function that is called. -/
def Command.isCall : Command → Bool
  | .call _ _ => true
  | .operand _ => false

mutual

/-- Names are names, literals can be written, and a group declares nothing. -/
def Operand.isCanonical : Operand → Bool
  | .field path => path.all isName
  | .variable name path => isVariable name && path.all isName
  | .literal v => isLiteral v
  | .group p path => p.isCanonical 0 && path.all isName

/-- All operands are canonical. -/
def argsCanonical : List Operand → Bool
  | [] => true
  | o :: rest => o.isCanonical && argsCanonical rest

/-- A function that is called is defined. -/
def Command.isCanonical : Command → Bool
  | .call name args => isDefined name && argsCanonical args
  | .operand o => o.isCanonical

/-- Stages behind the first call functions. -/
def stagesCanonical : List Command → Bool
  | [] => true
  | c :: rest => c.isCall && c.isCanonical && stagesCanonical rest

/-- A pipeline has at least one stage, and declares at most so many variables. -/
def Pipeline.isCanonical : Nat → Pipeline → Bool
  | _, .mk _ [] => false
  | limit, .mk decls (c :: rest) =>
    decls.length ≤ limit && decls.all isVariable && c.isCanonical && stagesCanonical rest

end

/-- The pipeline of an action is canonical. A range may declare an index beside the item. -/
def Action.isCanonical : Action → Bool
  | .rangeOpens p => p.isCanonical 2
  | .ifOpens p | .elseIf p | .scopeOpens p | .print p => p.isCanonical 1
  | .elseAlone | .endBlock => true

/-- A node that is text. -/
def Node.isText : Node → Bool
  | .text _ => true
  | _ => false

mutual

/-- A node that can be written. -/
def Node.isCanonical : Node → Bool
  | .text s => Template.isText s
  | .action p => p.isCanonical 1
  | .branches conditions otherwise =>
    !conditions.isEmpty && branchesCanonical conditions && endCanonical otherwise
  | .range p body otherwise => p.isCanonical 2 && Node.allCanonical body && endCanonical otherwise
  | .scope p body otherwise => p.isCanonical 1 && Node.allCanonical body && endCanonical otherwise

/-- Nodes that can be written. Two texts in a row would be read as one. -/
def Node.allCanonical : List Node → Bool
  | [] => true
  | n :: rest =>
    n.isCanonical && !(n.isText && rest.head?.any Node.isText) && Node.allCanonical rest

/-- Branches that can be written. -/
def branchesCanonical : List (Pipeline × List Node) → Bool
  | [] => true
  | (p, body) :: rest => p.isCanonical 1 && Node.allCanonical body && branchesCanonical rest

/-- A last part that can be written. -/
def endCanonical : Option (List Node) → Bool
  | none => true
  | some nodes => Node.allCanonical nodes

end

end Cohort.Template
