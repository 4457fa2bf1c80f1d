import Cohort.Pattern.Matching
import Cohort.Pattern.Property
import Cohort.Text.Slice

/-! # Reading a pattern -/

namespace Cohort.Pattern

open Text

/-! ## Flags -/

/-- The flags in force at a place of the pattern. -/
structure Flags where
  ignoreCase : Bool := false
  multiLine : Bool := false
  dotAll : Bool := false
  lazyByDefault : Bool := false
  unicode : Bool := true
  verbose : Bool := false
  carriageReturns : Bool := false

/-- Sets the flag of a letter, if there is one. -/
def Flags.set? (f : Flags) (on : Bool) : Char → Option Flags
  | 'i' => some { f with ignoreCase := on }
  | 'm' => some { f with multiLine := on }
  | 's' => some { f with dotAll := on }
  | 'U' => some { f with lazyByDefault := on }
  | 'u' => some { f with unicode := on }
  | 'x' => some { f with verbose := on }
  | 'R' => some { f with carriageReturns := on }
  | _ => none

/-- Reads flags up to the `:` or `)` that ends them; `seen` holds what was written so far. A flag is
written once, and so is the minus, which some flag has to follow. -/
def readFlags (f : Flags) (seen : List Char) : List Char → Option (Flags × List Char × List Char)
  | [] => none
  | c :: rest =>
    if c = ':' ∨ c = ')' then
      if seen.head? = some '-' then none else some (f, seen, c :: rest)
    else if seen.contains c then none
    else if c = '-' then readFlags f ('-' :: seen) rest
    else match f.set? (! seen.contains '-') c with
      | some f => readFlags f (c :: seen) rest
      | none => none

/-! ## Blanks and numbers -/

/-- What follows a comment that ends with its line. -/
def skipComment : List Char → List Char
  | [] => []
  | '\n' :: rest => rest
  | _ :: rest => skipComment rest

/-- In verbose patterns white space and comments mean nothing. -/
def skipBlanks (verbose : Bool) : Nat → List Char → List Char
  | 0, s => s
  | rounds + 1, s =>
    if verbose then
      match s with
      | '#' :: rest => skipBlanks verbose rounds (skipComment rest)
      | c :: rest => if isBlank c then skipBlanks verbose rounds rest else s
      | [] => []
    else s

/-- The next significant character and what follows it. -/
def skip (f : Flags) (s : List Char) : List Char :=
  skipBlanks f.verbose s.length s

/-- A decimal number below 2^32, with white space allowed around it. -/
def readCount (s : List Char) : Option (Nat × List Char) :=
  let s := s.dropWhile isBlank
  let digits := s.takeWhile Char.isDigit
  let n := digitsValue digits
  if digits.isEmpty ∨ n ≥ Nat.pow 2 32 then none
  else some (n, (s.dropWhile Char.isDigit).dropWhile isBlank)

/-- The bounds of a counted repetition, read behind its opening brace: the least count, and how many
more are allowed if there is an end to them. -/
def readBounds (f : Flags) (s : List Char) : Option ((Nat × Option Nat) × List Char) := do
  let (low, s) ← readCount (skip f s)
  match s with
  | '\x7d' :: rest => some ((low, some 0), rest)
  | ',' :: s =>
    match skip f s with
    | '\x7d' :: rest => some ((low, none), rest)
    | s =>
      let (high, s) ← readCount s
      match s with
      | '\x7d' :: rest => if low ≤ high then some ((low, some (high - low)), rest) else none
      | _ => none
  | _ => none

/-! ## Escapes -/

/-- What an escape stands for. -/
inductive Escaped where
  | char (c : Char)
  | set (s : CharSet)
  | anchor (a : Anchor)

/-- The value of hexadecimal digits, if they name a character. -/
def hexChar? (digits : List Char) : Option Char := do
  let values ← digits.mapM Text.hexDigit?
  let n := values.foldl (fun n d => 16 * n + d) 0
  if digits.isEmpty then none
  else if n < 0xD800 ∨ (0xE000 ≤ n ∧ n < 0x110000) then some (Char.ofNat n) else none

/-- A character by its code point: `width` digits, or any number of them in braces. -/
def readHex (f : Flags) (width : Nat) (s : List Char) : Option (Char × List Char) :=
  match skip f s with
  | '\x7b' :: s =>
    match s.dropWhile (· != '\x7d') with
    | '\x7d' :: rest => (hexChar? (s.takeWhile (· != '\x7d'))).map (·, rest)
    | _ => none
  | s =>
    if (s.take width).length = width then (hexChar? (s.take width)).map (·, s.drop width) else none

/-- The set of a property, as it is written between braces. -/
def propertySet? (inner : List Char) : Option CharSet :=
  match cut? ['!', '='] inner with
  | some (property, value) => (valuedSet? property value).map .compl
  | none =>
    match cut? [':'] inner with
    | some (property, value) => valuedSet? property value
    | none =>
      match cut? ['='] inner with
      | some (property, value) => valuedSet? property value
      | none => namedSet? inner

/-- A property read behind `\p`: one letter, or a name in braces. -/
def readProperty (f : Flags) (s : List Char) : Option (CharSet × List Char) :=
  match skip f s with
  | '\x7b' :: s =>
    match s.dropWhile (· != '\x7d') with
    | '\x7d' :: rest => (propertySet? (s.takeWhile (· != '\x7d'))).map (·, rest)
    | _ => none
  | c :: rest => if c = '\\' then none else (namedSet? [c]).map (·, rest)
  | [] => none

/-- A set as the flags have it: closed under case, then negated. -/
def finishSet (f : Flags) (negated : Bool) (s : CharSet) : CharSet :=
  let s := if f.ignoreCase then .anyCase s else s
  if negated then .compl s else s

/-- A named set; without Unicode its complement is no set of characters. -/
def kindSet? (f : Flags) (negated : Bool) (unicode ascii : Kind) : Option CharSet :=
  if f.unicode then some (finishSet f negated (.kind unicode))
  else if negated then none else some (finishSet f false (.kind ascii))

/-- A word boundary: plain, or one of four kinds named in braces. -/
def readWordBoundary (f : Flags) (s : List Char) : Option (Anchor × List Char) :=
  let ascii := !f.unicode
  match s with
  | '\x7b' :: inner =>
    let isNameChar := fun c : Char => c.isAlpha || c == '-'
    match skip f inner with
    | [] => none
    | c :: _ =>
      if isNameChar c then
        let inner := skip f inner
        match inner.dropWhile isNameChar with
        | '\x7d' :: rest =>
          match String.ofList (inner.takeWhile isNameChar) with
          | "start" => some (.wordStart ascii, rest)
          | "end" => some (.wordEnd ascii, rest)
          | "start-half" => some (.wordStartHalf ascii, rest)
          | "end-half" => some (.wordEndHalf ascii, rest)
          | _ => none
        | _ => none
      else some (.wordBoundary ascii, s)
  | _ => some (.wordBoundary ascii, s)

/-- Reads what follows a backslash. Digits and unknown letters stand for nothing. -/
def readEscape (f : Flags) (s : List Char) : Option (Escaped × List Char) :=
  let plain := fun (c : Char) (rest : List Char) => some (Escaped.char c, rest)
  let named := fun (s : Option CharSet) (rest : List Char) => s.map fun s => (Escaped.set s, rest)
  match s with
  | [] => none
  | 'x' :: rest => (readHex f 2 rest).map fun (c, rest) => (.char c, rest)
  | 'u' :: rest => (readHex f 4 rest).map fun (c, rest) => (.char c, rest)
  | 'U' :: rest => (readHex f 8 rest).map fun (c, rest) => (.char c, rest)
  | 'p' :: rest =>
    if f.unicode then (readProperty f rest).map fun (s, rest) => (.set (finishSet f false s), rest)
    else none
  | 'P' :: rest =>
    if f.unicode then (readProperty f rest).map fun (s, rest) => (.set (finishSet f true s), rest)
    else none
  | 'd' :: rest => named (kindSet? f false .digit .asciiDigit) rest
  | 'D' :: rest => named (kindSet? f true .digit .asciiDigit) rest
  | 's' :: rest => named (kindSet? f false .space .asciiSpace) rest
  | 'S' :: rest => named (kindSet? f true .space .asciiSpace) rest
  | 'w' :: rest => named (kindSet? f false .word .asciiWord) rest
  | 'W' :: rest => named (kindSet? f true .word .asciiWord) rest
  | 'a' :: rest => plain '\x07' rest
  | 'f' :: rest => plain '\x0c' rest
  | 't' :: rest => plain '\t' rest
  | 'r' :: rest => plain '\r' rest
  | 'n' :: rest => plain '\n' rest
  | 'v' :: rest => plain '\x0b' rest
  | 'A' :: rest => some (.anchor .textStart, rest)
  | 'z' :: rest => some (.anchor .textEnd, rest)
  | 'b' :: rest => (readWordBoundary f rest).map fun (a, rest) => (.anchor a, rest)
  | 'B' :: rest => some (.anchor (.notWordBoundary (!f.unicode)), rest)
  | '<' :: rest => some (.anchor (.wordStart (!f.unicode)), rest)
  | '>' :: rest => some (.anchor (.wordEnd (!f.unicode)), rest)
  | c :: rest => if c.toNat < 128 && !c.isAlphanum then plain c rest else none

/-! ## Bracketed sets -/

/-- The sets that are named inside brackets, as in `[[:alpha:]]`. -/
def asciiSet? (name : String) : Option CharSet :=
  match name with
  | "alnum" => some (.holding Char.isAlphanum)
  | "alpha" => some (.holding Char.isAlpha)
  | "ascii" => some (.range '\x00' '\x7f')
  | "blank" => some (.oneOf ['\t', ' '])
  | "cntrl" => some (.union (.range '\x00' '\x1f') (.single '\x7f'))
  | "digit" => some (.range '0' '9')
  | "graph" => some (.range '!' '~')
  | "lower" => some (.range 'a' 'z')
  | "print" => some (.range ' ' '~')
  | "punct" => some (.diff (.range '!' '~') (.holding Char.isAlphanum))
  | "space" => some (.kind .asciiSpace)
  | "upper" => some (.range 'A' 'Z')
  | "word" => some (.kind .asciiWord)
  | "xdigit" => some (.holding fun c => (Text.hexDigit? c).isSome)
  | _ => none

/-- A set such as `[:alpha:]` or `[:^alpha:]`, read behind its opening bracket. -/
def readAsciiSet (s : List Char) : Option (CharSet × List Char) :=
  match s with
  | ':' :: s =>
    let (negated, s) := match s with
      | '^' :: s => (true, s)
      | s => (false, s)
    match s.dropWhile (· != ':') with
    | ':' :: ']' :: rest =>
      (asciiSet? (String.ofList (s.takeWhile (· != ':')))).map fun set =>
        (if negated then .compl set else set, rest)
    | _ => none
  | _ => none

/-- The three operations on sets inside brackets. -/
inductive SetOp where
  | inter
  | diff
  | symmDiff

/-- The operation applied to what stands before and after it, both closed under case. -/
def SetOp.apply (f : Flags) (pending : Option (SetOp × CharSet)) (right : CharSet) : CharSet :=
  match pending with
  | none => right
  | some (op, left) =>
    let l := finishSet f false left
    let r := finishSet f false right
    match op with
    | .inter => .inter l r
    | .diff => .diff l r
    | .symmDiff => .symmDiff l r

/-- One character or escape inside brackets. -/
def readSetItem (f : Flags) (s : List Char) : Option (Escaped × List Char) :=
  match s with
  | [] => none
  | '\\' :: rest => readEscape f rest
  | c :: rest => if f.unicode || c.toNat < 128 then some (.char c, rest) else none

/-- One item inside brackets: a range of two characters, a character or a set. A dash before the
closing bracket or before another dash is no range. -/
def readSetRange (f : Flags) (s : List Char) : Option (CharSet × List Char) := do
  let (first, s) ← readSetItem f s
  let s := skip f s
  let alone : Option (CharSet × List Char) := match first with
    | .char c => some (.single c, s)
    | .set set => some (set, s)
    | .anchor _ => none
  match s with
  | [] => none
  | '-' :: rest =>
    match skip f rest with
    | ']' :: _ => alone
    | '-' :: _ => alone
    | [] => none
    | next =>
      let (last, s) ← readSetItem f next
      match first, last with
      | .char a, .char b => if a ≤ b then some (.range a b, s) else none
      | _, _ => none
  | _ => alone

/-- The dashes that open a bracketed set stand for themselves. -/
def readLeadingDashes (f : Flags) : Nat → CharSet → List Char → CharSet × List Char
  | rounds + 1, set, '-' :: rest =>
    readLeadingDashes f rounds (.union set (.single '-')) (skip f rest)
  | _, set, s => (set, s)

/-- Reads the start of a bracketed set: its negation, and the dashes or the closing bracket that
stand for themselves there. -/
def readSetStart (f : Flags) (s : List Char) : Bool × CharSet × List Char :=
  let (negated, s) := match skip f s with
    | '^' :: rest => (true, skip f rest)
    | s => (false, s)
  match s with
  | '-' :: _ =>
    let (set, s) := readLeadingDashes f s.length .empty s
    (negated, set, s)
  | ']' :: rest => (negated, .single ']', skip f rest)
  | s => (negated, .empty, s)

/-- Reads the inside of a bracketed set up to its closing bracket. `pending` is what stands before
the last operation, `current` the items since. -/
def readSet (f : Flags) :
    Nat → Bool → Option (SetOp × CharSet) → CharSet → List Char → Option (CharSet × List Char)
  | 0, _, _, _, _ => none
  | fuel + 1, negated, pending, current, s =>
    let operate := fun (op : SetOp) (rest : List Char) =>
      readSet f fuel negated (some (op, SetOp.apply f pending current)) .empty rest
    let nested := fun (rest : List Char) => do
      let (inner, start, rest) := readSetStart f rest
      let (set, rest) ← readSet f fuel inner none start rest
      readSet f fuel negated pending (.union current set) rest
    match skip f s with
    | [] => none
    | '[' :: rest =>
      match readAsciiSet rest with
      | some (set, rest) => readSet f fuel negated pending (.union current set) rest
      | none => nested rest
    | ']' :: rest =>
      if negated && !f.unicode then none
      else some (finishSet f negated (SetOp.apply f pending current), rest)
    | '&' :: '&' :: rest => operate .inter rest
    | '-' :: '-' :: rest => operate .diff rest
    | '~' :: '~' :: rest => operate .symmDiff rest
    | s => do
      let (item, rest) ← readSetRange f s
      readSet f fuel negated pending (.union current item) rest

/-! ## Groups -/

/-- What opens with a parenthesis. -/
inductive Opening where
  /-- A group, with the flags inside it and its name. -/
  | group (flags : Flags) (name : Option String)
  /-- Flags for the rest of the group around. -/
  | setFlags (flags : Flags)

/-- The name of a group, up to its closing angle bracket. -/
def readGroupName (s : List Char) : Option (String × List Char) :=
  match s.dropWhile (· != '>') with
  | '>' :: rest =>
    match s.takeWhile (· != '>') with
    | [] => none
    | c :: cs =>
      let isNameChar := fun c => c == '_' || c == '.' || c == '[' || c == ']' || isAlphanumeric c
      if (c == '_' || isAlphabetic c) && cs.all isNameChar then some (String.ofList (c :: cs), rest)
      else none
  | _ => none

/-- Reads what follows an opening parenthesis. Looking around is not offered. -/
def readOpening (f : Flags) (s : List Char) : Option (Opening × List Char) :=
  match skip f s with
  | '?' :: '=' :: _ | '?' :: '!' :: _ | '?' :: '<' :: '=' :: _ | '?' :: '<' :: '!' :: _ => none
  | '?' :: 'P' :: '<' :: rest | '?' :: '<' :: rest =>
    (readGroupName rest).map fun (name, rest) => (.group f (some name), rest)
  | '?' :: rest =>
    match readFlags f [] rest with
    | some (inner, _, ':' :: rest) => some (.group inner none, rest)
    | some (inner, seen, ')' :: rest) => if seen.isEmpty then none else some (.setFlags inner, rest)
    | _ => none
  | rest => some (.group f none, rest)

/-! ## The whole pattern -/

/-- Any character but a line break, or any at all. -/
def dotSet? (f : Flags) : Option CharSet :=
  if !f.unicode then none
  else if f.dotAll then some .all
  else if f.carriageReturns then some (.compl (.oneOf ['\r', '\n']))
  else some (.compl (.single '\n'))

/-- A character that stands for itself. -/
def literal? (f : Flags) (c : Char) : Option Regex :=
  if f.unicode || c.toNat < 128 then some (.char (finishSet f false (.single c))) else none

/-- Drops the mark of a lazy repetition: it changes which match is found, not whether there is
one. -/
def dropLazy : List Char → List Char
  | '?' :: rest => rest
  | s => s

/-- The state of reading: the flags in force and the names given to groups. -/
structure Reading where
  flags : Flags
  names : List String

/-- Reads alternatives up to a closing parenthesis or the end. `before` are the finished
alternatives, `done` is the one under way without its last part `last`, which a repetition can
take. -/
def readBody :
    Nat → Reading → Option Regex → Regex → Option Regex → List Char →
      Option (Regex × Reading × List Char)
  | 0, _, _, _, _, _ => none
  | fuel + 1, st, before, done, last, s =>
    let f := st.flags
    let whole := match last with
      | some part => Regex.seq done part
      | none => done
    let alternatives := match before with
      | some b => Regex.alt b whole
      | none => whole
    let add := fun (part : Regex) (rest : List Char) => readBody fuel st before whole (some part) rest
    let repeated := fun (g : Regex → Regex) (rest : List Char) =>
      match last with
      | some part => readBody fuel st before done (some (g part)) rest
      | none => none
    match skip f s with
    | [] => some (alternatives, st, [])
    | ')' :: rest => some (alternatives, st, ')' :: rest)
    | '|' :: rest => readBody fuel st (some alternatives) .empty none rest
    | '*' :: rest => repeated .star (dropLazy rest)
    | '+' :: rest => repeated (fun r => .seq r (.star r)) (dropLazy rest)
    | '?' :: rest => repeated (fun r => .times r 0 1) (dropLazy rest)
    | '\x7b' :: rest => do
      let ((low, extra), rest) ← readBounds f rest
      let g : Regex → Regex := fun r => match extra with
        | some extra => .times r low extra
        | none => .seq (.times r low 0) (.star r)
      repeated g (dropLazy (skip f rest))
    | '[' :: rest => do
      let (negated, start, rest) := readSetStart f rest
      let (set, rest) ← readSet f (rest.length + 1) negated none start rest
      add (.char set) rest
    | '(' :: rest =>
      match readOpening f rest with
      | some (.setFlags flags, rest) => readBody fuel { st with flags } before whole none rest
      | some (.group flags name, rest) =>
        if name.any st.names.contains then none
        else do
          let names := name.toList ++ st.names
          let (inner, after, rest) ← readBody fuel { flags, names } none .empty none rest
          match rest with
          | ')' :: rest =>
            readBody fuel { st with names := after.names } before whole (some inner) rest
          | _ => none
      | none => none
    | '\\' :: rest => do
      let (escaped, rest) ← readEscape f rest
      match escaped with
      | .char c =>
        let part ← literal? f c
        add part rest
      | .set set => add (.char set) rest
      | .anchor a => add (.anchor a) rest
    | '.' :: rest => do
      let set ← dotSet? f
      add (.char set) rest
    | '^' :: rest => add (.anchor (if f.multiLine then .lineStart f.carriageReturns else .textStart)) rest
    | '$' :: rest => add (.anchor (if f.multiLine then .lineEnd f.carriageReturns else .textEnd)) rest
    | c :: rest => do
      let part ← literal? f c
      add part rest

/-! ## The size of a pattern -/

/-- The steps that a set takes in a pattern, about two for each of its ranges. -/
def CharSet.steps : CharSet → Nat
  | .range _ high => high.utf8Size
  | .kind .word => 1500
  | .kind .digit => 150
  | .kind _ => 20
  | .category _ => 1000
  | .codes set => 2 * set.ranges.size
  | .holding _ => 20
  | .empty => 1
  | .union a b | .inter a b | .diff a b | .symmDiff a b => a.steps + b.steps
  | .compl a => a.steps + 3
  | .anyCase a => 2 * a.steps

/-- The steps that a pattern takes when its repetitions are written out. -/
def Regex.steps : Regex → Nat
  | .empty => 0
  | .char set => set.steps
  | .anchor _ => 1
  | .seq a b => a.steps + b.steps
  | .alt a b => a.steps + b.steps + 1
  | .star a => a.steps + 1
  | .times a low extra => a.steps * low + (a.steps + 1) * extra

/-- The most steps that a pattern may take. -/
def mostSteps : Nat := 327680

/-- Reads a pattern. One that is not well formed or that takes too many steps is refused. -/
def Regex.read? (pattern : String) : Option Regex :=
  let s := pattern.toList
  match readBody (2 * s.length + 2) ⟨{}, []⟩ none .empty none s with
  | some (r, _, []) => if r.steps ≤ mostSteps then some r else none
  | _ => none

end Cohort.Pattern
