import Cohort.Text.CaseMap
import Cohort.Text.Cluster

/-! # Names as words: camel, pascal, snake and kebab case -/

namespace Cohort.Text

/-! ## Splitting a name into words -/

/-- What a cluster is for the purpose of finding words. -/
inductive Shape where
  | separator
  | digit
  | upper
  | lower
  | other
deriving DecidableEq, Repr

/-- The shape of a cluster. A cluster has a case if its upper-case and lower-case forms differ and
it equals one of them. -/
def Shape.of (cluster : List Char) : Shape :=
  if cluster = ['-'] ∨ cluster = ['_'] ∨ cluster = [' '] then .separator
  else if cluster.all Char.isDigit then .digit
  else
    let up := cluster.flatMap upperChar
    let low := lowerFrom [] cluster
    if up = low then .other
    else if cluster = up then .upper
    else if cluster = low then .lower
    else .other

/-- Whether a word starts between two neighbours. -/
def Shape.startsWord : Shape → Shape → Bool
  | .lower, .upper | .upper, .digit | .digit, .upper | .digit, .lower | .lower, .digit => true
  | _, _ => false

/-- Walks over clusters and their shapes; `before` is the shape just passed and `word` the word
under way, in reverse. A capital between a capital and a lower-case letter starts a word. -/
def nameWordsFrom :
    Option Shape → List (List Char) → List (List Char × Shape) → List (List Char)
  | _, word, [] => [word.reverse.flatten]
  | before, word, (cluster, shape) :: rest =>
    if shape = .separator then word.reverse.flatten :: nameWordsFrom (some shape) [] rest
    else
      let acronymEnds := before = some .upper ∧ shape = .upper ∧ (rest.head?.map (·.2)) = some .lower
      if (before.any (·.startsWord shape)) ∨ acronymEnds then
        word.reverse.flatten :: nameWordsFrom (some shape) [cluster] rest
      else nameWordsFrom (some shape) (cluster :: word) rest

/-- The words of a name. -/
def nameWords (s : String) : List String :=
  let marked := (clusters s.toList).map fun c => (c, Shape.of c)
  ((nameWordsFrom none [] marked).filter (! ·.isEmpty)).map String.ofList

/-! ## Joining words to a name -/

/-- A word with its first character in upper case and the rest in lower case. -/
def capitalWord (s : String) : String :=
  match s.toList with
  | [] => ""
  | c :: rest => String.ofList (upperChar c ++ lowerFrom [] rest)

/-- `userName` -/
def camelCase (s : String) : String :=
  match nameWords s with
  | [] => ""
  | first :: rest => String.join (toLower first :: rest.map capitalWord)

/-- `UserName` -/
def pascalCase (s : String) : String :=
  String.join ((nameWords s).map capitalWord)

/-- `user_name` -/
def snakeCase (s : String) : String :=
  String.intercalate "_" ((nameWords s).map toLower)

/-- `user-name` -/
def kebabCase (s : String) : String :=
  String.intercalate "-" ((nameWords s).map toLower)

end Cohort.Text
