import Cohort.Text.Digits

/-! # Sets of code points, written as ranges -/

namespace Cohort.Text

/-- A set of code points: closed ranges, ascending and apart. -/
structure CodeSet where
  ranges : Array (Nat × Nat)

namespace CodeSet

/-! ## Reading a written table -/

/-- The range that ends here, if one is under way: `low-high`, or a single code point. -/
def closeRange : Option Nat → Option Nat → List (Nat × Nat)
  | some low, some high => [(low, high)]
  | none, some only => [(only, only)]
  | _, none => []

/-- Reads ranges such as `41-5A 61 AA-AB`. A digit extends the number under way, a dash ends the
lower bound, anything else ends the range. -/
def readRangesFrom : List Char → Option Nat → Option Nat → List (Nat × Nat)
  | [], low, high => closeRange low high
  | c :: rest, low, high =>
    match hexDigit? c with
    | some d => readRangesFrom rest low (some (16 * high.getD 0 + d))
    | none =>
      if c = '-' then readRangesFrom rest high none
      else closeRange low high ++ readRangesFrom rest none none

/-- The ranges of a written table. -/
def readRanges (table : String) : List (Nat × Nat) :=
  readRangesFrom table.toList none none

/-- The set of a written table. -/
def read (table : String) : CodeSet :=
  ⟨(readRanges table).toArray⟩

/-! ## Looking up -/

/-- The last entry whose key is at most `n`, in entries with ascending keys: each round halves the
part that can hold it. -/
def searchFrom {α : Type} (entries : Array α) (key : α → Nat) (n : Nat) :
    Nat → Nat → Nat → Option α → Option α
  | 0, _, _, found => found
  | rounds + 1, low, high, found =>
    if low < high then
      let middle := (low + high) / 2
      match entries[middle]? with
      | none => found
      | some e =>
        if key e ≤ n then searchFrom entries key n rounds (middle + 1) high (some e)
        else searchFrom entries key n rounds low middle found
    else found

/-- The last entry whose key is at most `n`, in entries with ascending keys. -/
def search {α : Type} (entries : Array α) (key : α → Nat) (n : Nat) : Option α :=
  searchFrom entries key n (entries.size.log2 + 1) 0 entries.size none

/-- Whether a code point is in the set. -/
def contains (s : CodeSet) (n : Nat) : Bool :=
  match search s.ranges (·.1) n with
  | some (_, high) => n ≤ high
  | none => false

end CodeSet

end Cohort.Text
