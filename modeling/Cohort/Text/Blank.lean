/-! # White space, trimming and words -/

namespace Cohort.Text

/-! ## White space -/

/-- White space, by the Unicode property of that name. -/
def isBlank (c : Char) : Bool :=
  let n := c.toNat
  (9 ≤ n && n ≤ 13) || n == 0x20 || n == 0x85 || n == 0xA0 || n == 0x1680 ||
    (0x2000 ≤ n && n ≤ 0x200A) || n == 0x2028 || n == 0x2029 || n == 0x202F || n == 0x205F ||
    n == 0x3000

/-- White space between the tokens of a language: space, tab, carriage return and line feed. -/
def isSpace (c : Char) : Bool :=
  c == ' ' || c == '\t' || c == '\r' || c == '\n'

/-- The rest behind white space between tokens. -/
def skipSpace (s : List Char) : List Char := s.dropWhile isSpace

/-! ## Trimming -/

/-- The text without the characters in question at its end. -/
def dropEndWhile (p : Char → Bool) (s : List Char) : List Char :=
  (s.reverse.dropWhile p).reverse

/-- The text without the characters in question at either end. -/
def trimWhile (p : Char → Bool) (s : List Char) : List Char :=
  dropEndWhile p (s.dropWhile p)

/-- The text without white space at either end. -/
def trim (s : List Char) : List Char :=
  trimWhile isBlank s

/-! ## Words -/

/-- Splits at white space; `word` is the word under way, in reverse. -/
def wordsFrom : List Char → List Char → List (List Char)
  | word, [] => if word.isEmpty then [] else [word.reverse]
  | word, c :: rest =>
    if isBlank c then
      if word.isEmpty then wordsFrom [] rest else word.reverse :: wordsFrom [] rest
    else wordsFrom (c :: word) rest

/-- The words of a text: what stands between runs of white space. -/
def words (s : List Char) : List (List Char) :=
  wordsFrom [] s

/-- The text with each run of white space made one space, and none at the ends. -/
def compact (s : String) : String :=
  String.ofList (List.intercalate [' '] (words s.toList))

end Cohort.Text
