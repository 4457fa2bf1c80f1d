import Cohort.Text.Blank
import Cohort.Text.CaseMap

/-! # Sets of characters in a pattern -/

namespace Cohort.Pattern

open Text

/-- Sets of characters named by a pattern. -/
inductive Kind where
  /-- `\d`: decimal digits -/
  | digit
  /-- `\s`: white space -/
  | space
  /-- `\w`: letters, marks, decimal digits, connectors and joiners -/
  | word
  /-- The same three among the ASCII characters. -/
  | asciiDigit
  | asciiSpace
  | asciiWord
deriving DecidableEq, Repr

/-- Whether a character can be part of a word. -/
def isWordChar (c : Char) : Bool :=
  if c.toNat < 128 then c.isAlphanum || c == '_'
  else
    let k := Category.of c
    isAlphabetic c || k.isMark || k == .nd || k == .pc || c.toNat == 0x200C || c.toNat == 0x200D

/-- Whether a character is in a named set. -/
def Kind.contains : Kind → Char → Bool
  | .digit, c => Category.of c == .nd
  | .space, c => isBlank c
  | .word, c => isWordChar c
  | .asciiDigit, c => c.isDigit
  | .asciiSpace, c => isSpace c || c == '\x0b' || c == '\x0c'
  | .asciiWord, c => c.isAlphanum || c == '_'

/-- A set of characters, built as a pattern writes it. -/
inductive CharSet where
  | range (low high : Char)
  | kind (k : Kind)
  | category (members : List Category)
  | codes (set : CodeSet)
  /-- A property given by its test. -/
  | holding (property : Char → Bool)
  | empty
  | union (a b : CharSet)
  | inter (a b : CharSet)
  | diff (a b : CharSet)
  | symmDiff (a b : CharSet)
  | compl (a : CharSet)
  /-- The set together with what differs from its members by case alone. -/
  | anyCase (a : CharSet)

/-- The characters that differ from one by case alone, itself included. -/
def caseVariants (c : Char) : List Char :=
  let first := (foldChar c).toNat
  let others := foldRuns.toList.filterMap fun r =>
    if r.target ≤ first then
      let n := r.low + (first - r.target)
      if n ≤ r.high ∧ (n - r.low) % r.step = 0 then some (Char.ofNat n) else none
    else none
  Char.ofNat first :: others

namespace CharSet

/-- Whether a character is in the set. -/
def contains : CharSet → Char → Bool
  | .range low high, c => low ≤ c && c ≤ high
  | .kind k, c => k.contains c
  | .category members, c => members.contains (Category.of c)
  | .codes set, c => set.contains c.toNat
  | .holding property, c => property c
  | .empty, _ => false
  | .union a b, c => a.contains c || b.contains c
  | .inter a b, c => a.contains c && b.contains c
  | .diff a b, c => a.contains c && !b.contains c
  | .symmDiff a b, c => a.contains c != b.contains c
  | .compl a, c => !a.contains c
  | .anyCase a, c => (caseVariants c).any a.contains

/-- A single character. -/
def single (c : Char) : CharSet := .range c c

/-- Every character. -/
def all : CharSet := .compl .empty

/-- One of several characters. -/
def oneOf (cs : List Char) : CharSet :=
  cs.foldl (fun s c => .union s (single c)) .empty

end CharSet

end Cohort.Pattern
