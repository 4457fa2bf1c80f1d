import Cohort.Pattern.CharSet
import Cohort.Text.Script

/-! # Names of character properties -/

namespace Cohort.Pattern

open Text

/-- A property name as it is compared: lower case, without blanks, dashes, underscores and a leading
`is`. -/
def looseName (name : List Char) : String :=
  let letters := (name.filter fun c => c != ' ' && c != '_' && c != '-' && c.toNat < 128).map Char.toLower
  match letters with
  | 'i' :: 's' :: rest => if rest = ['c'] then "isc" else String.ofList rest
  | _ => String.ofList letters

/-- The general categories, by their short and long names. -/
def categoryNames : List (List String × List Category) := [
  (["c", "other"], [.cc, .cf, .cn, .co]),
  (["cc", "control", "cntrl"], [.cc]),
  (["cf", "format"], [.cf]),
  (["cn", "unassigned"], [.cn]),
  (["co", "privateuse"], [.co]),
  (["l", "letter"], [.lu, .ll, .lt, .lm, .lo]),
  (["lc", "casedletter"], [.lu, .ll, .lt]),
  (["ll", "lowercaseletter"], [.ll]),
  (["lm", "modifierletter"], [.lm]),
  (["lo", "otherletter"], [.lo]),
  (["lt", "titlecaseletter"], [.lt]),
  (["lu", "uppercaseletter"], [.lu]),
  (["m", "mark", "combiningmark"], [.mn, .mc, .me]),
  (["mc", "spacingmark"], [.mc]),
  (["me", "enclosingmark"], [.me]),
  (["mn", "nonspacingmark"], [.mn]),
  (["n", "number"], [.nd, .nl, .no]),
  (["nd", "decimalnumber", "digit"], [.nd]),
  (["nl", "letternumber"], [.nl]),
  (["no", "othernumber"], [.no]),
  (["p", "punctuation", "punct"], [.pc, .pd, .ps, .pe, .pi, .pf, .po]),
  (["pc", "connectorpunctuation"], [.pc]),
  (["pd", "dashpunctuation"], [.pd]),
  (["pe", "closepunctuation"], [.pe]),
  (["pf", "finalpunctuation"], [.pf]),
  (["pi", "initialpunctuation"], [.pi]),
  (["po", "otherpunctuation"], [.po]),
  (["ps", "openpunctuation"], [.ps]),
  (["s", "symbol"], [.sm, .sc, .sk, .so]),
  (["sc", "currencysymbol"], [.sc]),
  (["sk", "modifiersymbol"], [.sk]),
  (["sm", "mathsymbol"], [.sm]),
  (["so", "othersymbol"], [.so]),
  (["z", "separator"], [.zs, .zl, .zp]),
  (["zl", "lineseparator"], [.zl]),
  (["zp", "paragraphseparator"], [.zp]),
  (["zs", "spaceseparator"], [.zs])]

/-- The set of a general category, or of one of the three sets named beside them. -/
def categorySet? (name : String) : Option CharSet :=
  match name with
  | "any" => some .all
  | "ascii" => some (.range '\x00' '\x7f')
  | "assigned" => some (.compl (.category [.cn]))
  | _ => (categoryNames.find? fun entry => entry.1.contains name).map fun entry => .category entry.2

/-- The set of a property that holds or does not. -/
def binarySet? (name : String) : Option CharSet :=
  match name with
  | "alphabetic" | "alpha" => some (.holding isAlphabetic)
  | "lowercase" | "lower" => some (.holding isLowercase)
  | "uppercase" | "upper" => some (.holding isUppercase)
  | "whitespace" | "wspace" | "space" => some (.holding isBlank)
  | "cased" => some (.holding isCased)
  | "caseignorable" | "ci" => some (.holding isCaseIgnorable)
  | "graphemeextend" | "grext" => some (.holding isGraphemeExtend)
  | "asciihexdigit" | "ahex" => some (.holding fun c => (Text.hexDigit? c).isSome)
  | _ => none

/-- The set of a property named alone: a property that holds or not, a general category or a
script. -/
def namedSet? (name : List Char) : Option CharSet :=
  let n := looseName name
  (binarySet? n).orElse fun _ => (categorySet? n).orElse fun _ => (script? n).map .codes

/-- The set of the characters for which a property has a value. -/
def valuedSet? (property value : List Char) : Option CharSet :=
  let v := looseName value
  match looseName property with
  | "gc" | "generalcategory" => categorySet? v
  | "sc" | "script" | "scx" | "scriptextensions" => (script? v).map .codes
  | _ => none

end Cohort.Pattern
