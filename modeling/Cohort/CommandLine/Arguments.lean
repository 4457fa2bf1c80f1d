import Cohort.Dialect
import Cohort.Text.Slice

/-! # The arguments of the command line -/

namespace Cohort.CommandLine

/-! ## What can be asked for -/

/-- How a query is printed. -/
inductive OutputFormat where
  | text
  | json
deriving DecidableEq, Repr

/-- What is to be done. An input is a file, or `-`. -/
inductive Command where
  | compile (input : String) (asWritten : Bool) (format : OutputFormat)
  | simplify (input : String)
  | validate (input : String)
  | catalog (json : Bool)
deriving DecidableEq, Repr

/-- What is to be done, and how. -/
structure Invocation where
  config : Option String
  dialect : Option Dialect
  command : Command
deriving DecidableEq, Repr

/-- What a command line asks for. -/
inductive Request where
  | run (invocation : Invocation)
  | version
  | help
  | rejected
deriving DecidableEq, Repr

/-! ## Switches -/

/-- The switches. -/
inductive Switch where
  | config
  | dialect
  | verbose
  | version
  | help
  | asWritten
  | format
  | json
deriving DecidableEq, Repr

namespace Switch

/-- The name behind two dashes. -/
def long : Switch → String
  | .config => "config"
  | .dialect => "dialect"
  | .verbose => "verbose"
  | .version => "version"
  | .help => "help"
  | .asWritten => "no-simplify"
  | .format => "format"
  | .json => "json"

/-- The letter behind one dash. -/
def short? : Switch → Option Char
  | .config => some 'c'
  | .dialect => some 'd'
  | .verbose => some 'v'
  | .version => some 'V'
  | .help => some 'h'
  | .format => some 'f'
  | .asWritten | .json => none

/-- Whether a switch takes a value. -/
def takesValue : Switch → Bool
  | .config | .dialect | .format => true
  | _ => false

/-- Whether a value is right for a switch. -/
def admits (value : String) : Switch → Bool
  | .config => !value.isEmpty
  | .dialect => (Dialect.ofName? value).isSome
  | .format => ["text", "json"].contains value
  | _ => true

/-- The switches that stand before a command as well as behind it. -/
def shared : List Switch := [.config, .dialect, .verbose, .help]

end Switch

/-! ## Reading -/

/-- What was read: switches with their values, and other arguments, the latest first. -/
structure Given where
  switches : List (Switch × String) := []
  others : List String := []

/-- Why reading ends before the last argument. -/
inductive Stop where
  | version
  | help
  | rejected
deriving DecidableEq, Repr

namespace Given

/-- The value of a switch. -/
def value? (g : Given) (s : Switch) : Option String := List.lookup s g.switches

/-- Adds a switch. None may be given twice, and its value has to be right. -/
def add (g : Given) (s : Switch) (value : String) : Except Stop Given :=
  match s with
  | .version => .error .version
  | .help => .error .help
  | s =>
    if (g.value? s).isSome || !s.admits value then .error .rejected
    else .ok { g with switches := (s, value) :: g.switches }

end Given

/-- Whether an argument begins with a dash and goes on. -/
def isSwitch (arg : String) : Bool :=
  match arg.toList with
  | '-' :: _ :: _ => true
  | _ => false

/-- Reads letters behind one dash. The rest behind a switch with a value is its value, after an equals
sign if there is one; without a rest the value is still to come. -/
def readLetters (allowed : List Switch) (g : Given) : List Char → Except Stop (Given × Option Switch)
  | [] => .ok (g, none)
  | c :: rest =>
    match allowed.find? fun s => s.short? == some c with
    | none => .error .rejected
    | some s =>
      if s.takesValue then
        match rest with
        | [] => .ok (g, some s)
        | '=' :: value => (g.add s (String.ofList value)).map (·, none)
        | value => (g.add s (String.ofList value)).map (·, none)
      else do
        readLetters allowed (← g.add s "") rest

/-- Reads a name behind two dashes, with a value behind an equals sign or still to come. -/
def readLong (allowed : List Switch) (g : Given) (body : List Char) :
    Except Stop (Given × Option Switch) :=
  let (name, value) := match Text.cut? ['='] body with
    | some (name, value) => (name, some (String.ofList value))
    | none => (body, none)
  match allowed.find? fun s => s.long == String.ofList name, value with
  | none, _ => .error .rejected
  | some s, some value =>
    if s.takesValue then (g.add s value).map (·, none) else .error .rejected
  | some s, none => if s.takesValue then .ok (g, some s) else (g.add s "").map (·, none)

/-- Reads arguments. `waiting` is a switch whose value is still to come. Up to `most` arguments that
are no switches are taken. If `most` is none, reading ends at the first of them: it is given with what
follows. -/
def readArguments (allowed : List Switch) (most : Option Nat) (waiting : Option Switch) (g : Given) :
    List String → Except Stop (Given × List String)
  | [] => if waiting.isSome then .error .rejected else .ok (g, [])
  | arg :: rest =>
    if isSwitch arg then
      if waiting.isSome then .error .rejected
      else if arg = "--" then
        match most with
        | none => .error .rejected
        | some n =>
          if rest.length + g.others.length ≤ n then .ok ({ g with others := rest.reverse ++ g.others }, [])
          else .error .rejected
      else do
        let (g, waiting) ← match arg.toList with
          | '-' :: '-' :: body => readLong allowed g body
          | body => readLetters allowed g (body.drop 1)
        readArguments allowed most waiting g rest
    else match waiting with
      | some s => do
        readArguments allowed most none (← g.add s arg) rest
      | none =>
        match most with
        | none => .ok (g, arg :: rest)
        | some n =>
          if g.others.length < n then
            readArguments allowed most none { g with others := arg :: g.others } rest
          else .error .rejected

/-! ## Commands -/

/-- The names of the commands. -/
def commandNames : List String := ["compile", "simplify", "validate", "catalog"]

/-- The switches of a command, and how many other arguments it takes. -/
def shapeOf : String → List Switch × Nat
  | "compile" => (.asWritten :: .format :: Switch.shared, 1)
  | "catalog" => (.json :: Switch.shared, 0)
  | _ => (Switch.shared, 1)

/-- The command of a name with what was given for it. -/
def commandOf? (name : String) (g : Given) : Option Command :=
  match name, g.others with
  | "compile", [input] =>
    let format := if g.value? .format = some "json" then OutputFormat.json else .text
    some (.compile input (g.value? .asWritten).isSome format)
  | "simplify", [input] => some (.simplify input)
  | "validate", [input] => some (.validate input)
  | "catalog", [] => some (.catalog (g.value? .json).isSome)
  | _, _ => none

/-- The settings file: what stands behind the command counts before what stands in front of it, and
both count before the environment. An empty name in the environment is refused. -/
def configOf (outer inner : Given) (environment : Option String) : Except Stop (Option String) :=
  match outer.value? .config, inner.value? .config with
  | some _, some path => .ok (some path)
  | a, b =>
    if environment = some "" then .error .rejected
    else .ok (b.or (a.or environment))

/-- Reads all arguments. `environment` names a settings file to be used where no argument does. -/
def readInvocation (environment : Option String) (args : List String) : Except Stop Invocation := do
  let (outer, rest) ← readArguments (.version :: Switch.shared) none none {} args
  match rest with
  | [] => throw .rejected
  | name :: rest =>
    if name = "help" then
      throw (if rest.all fun arg => ("help" :: commandNames).contains arg then .help else .rejected)
    if !commandNames.contains name then throw .rejected
    let (allowed, most) := shapeOf name
    let (inner, _) ← readArguments allowed (some most) none {} rest
    match commandOf? name inner with
    | none => throw .rejected
    | some command =>
      let config ← configOf outer inner environment
      let dialect := ((inner.value? .dialect).or (outer.value? .dialect)).bind Dialect.ofName?
      return ⟨config, dialect, command⟩

/-- What a command line asks for. -/
def Request.read (environment : Option String) (args : List String) : Request :=
  match readInvocation environment args with
  | .ok invocation => .run invocation
  | .error .version => .version
  | .error .help => .help
  | .error .rejected => .rejected

end Cohort.CommandLine
