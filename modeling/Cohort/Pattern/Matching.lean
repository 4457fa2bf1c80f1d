import Cohort.Pattern.CharSet

/-! # Patterns and the texts they match -/

namespace Cohort.Pattern

/-! ## Syntax -/

/-- Conditions on a position of the text. -/
inductive Anchor where
  | textStart
  | textEnd
  /-- A line starts or ends here; the flag lets carriage returns end lines too. -/
  | lineStart (returns : Bool)
  | lineEnd (returns : Bool)
  /-- A word starts or ends here; the flag restricts words to ASCII. -/
  | wordBoundary (ascii : Bool)
  | notWordBoundary (ascii : Bool)
  | wordStart (ascii : Bool)
  | wordEnd (ascii : Bool)
  | wordStartHalf (ascii : Bool)
  | wordEndHalf (ascii : Bool)
deriving DecidableEq, Repr

/-- A regular expression. -/
inductive Regex where
  | empty
  | char (set : CharSet)
  | anchor (a : Anchor)
  | seq (a b : Regex)
  | alt (a b : Regex)
  | star (a : Regex)
  /-- At least `low` times and at most `low + extra` times. -/
  | times (a : Regex) (low extra : Nat)

/-! ## Matching -/

/-- Whether a word character stands at an index. -/
def wordAt (text : Array Char) (ascii : Bool) (i : Nat) : Bool :=
  match text[i]? with
  | some c => if ascii then Kind.asciiWord.contains c else isWordChar c
  | none => false

/-- Whether a word character stands before a position. -/
def wordBefore (text : Array Char) (ascii : Bool) : Nat → Bool
  | 0 => false
  | i + 1 => wordAt text ascii i

/-- Whether the condition holds at a position, counted from 0 to the length of the text. -/
def Anchor.holds (text : Array Char) (i : Nat) : Anchor → Bool
  | .textStart => i == 0
  | .textEnd => i == text.size
  | .lineStart returns => i == 0 || text[i - 1]? == some '\n' ||
      (returns && text[i - 1]? == some '\r' && text[i]? != some '\n')
  | .lineEnd returns => i == text.size ||
      (text[i]? == some '\n' && !(returns && i != 0 && text[i - 1]? == some '\r')) ||
      (returns && text[i]? == some '\r')
  | .wordBoundary ascii => wordBefore text ascii i != wordAt text ascii i
  | .notWordBoundary ascii => wordBefore text ascii i == wordAt text ascii i
  | .wordStart ascii => !wordBefore text ascii i && wordAt text ascii i
  | .wordEnd ascii => wordBefore text ascii i && !wordAt text ascii i
  | .wordStartHalf ascii => !wordBefore text ascii i
  | .wordEndHalf ascii => !wordAt text ascii i

/-- Union of two sets of positions. -/
def merge (a b : List Nat) : List Nat :=
  a ++ b.filter (! a.contains ·)

/-- Applies a step to a set of positions again and again, and collects all that is reached. -/
def closure (step : List Nat → List Nat) : Nat → List Nat → List Nat → List Nat
  | 0, _, seen => seen
  | rounds + 1, frontier, seen =>
    let next := (step frontier).filter (! seen.contains ·)
    if next.isEmpty then seen else closure step rounds next (seen ++ next)

/-- Applies a step exactly `n` times. -/
def iterate (step : List Nat → List Nat) : Nat → List Nat → List Nat
  | 0, froms => froms
  | n + 1, froms => iterate step n (step froms)

/-- The positions at which a match can end that starts at one of the given positions. A repeated
part that can match nothing adds nothing, so a text of `n` characters needs `n + 1` rounds. -/
def Regex.ends (text : Array Char) : Regex → List Nat → List Nat
  | .empty, froms => froms
  | .char set, froms => froms.filterMap fun i =>
      match text[i]? with
      | some c => if set.contains c then some (i + 1) else none
      | none => none
  | .anchor a, froms => froms.filter fun i => a.holds text i
  | .seq a b, froms => b.ends text (a.ends text froms)
  | .alt a b, froms => merge (a.ends text froms) (b.ends text froms)
  | .star a, froms => closure (a.ends text) (text.size + 1) froms froms
  | .times a low extra, froms =>
      let first := iterate (a.ends text) low froms
      closure (a.ends text) extra first first

/-- Whether a pattern matches some part of a text. -/
def Regex.matchesIn (r : Regex) (text : String) : Bool :=
  let cs := text.toList.toArray
  !(r.ends cs (List.range (cs.size + 1))).isEmpty

end Cohort.Pattern
