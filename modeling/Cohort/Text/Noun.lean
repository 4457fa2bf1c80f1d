import Cohort.Pattern.Reader
import Cohort.Text.CaseMap

/-! # English nouns: plural and singular -/

namespace Cohort.Text

/-! ## Rules -/

/-- Nouns with one form. -/
def uncountable : List String := [
  "accommodation", "adulthood", "advertising", "advice", "aggression", "aid", "air", "aircraft",
  "alcohol", "anger", "applause", "arithmetic", "assistance", "athletics", "bacon", "baggage",
  "beef", "biology", "blood", "botany", "bread", "butter", "carbon", "cardboard", "cash", "chalk",
  "chaos", "chess", "crossroads", "countryside", "dancing", "deer", "dignity", "dirt", "dust",
  "economics", "education", "electricity", "engineering", "enjoyment", "envy", "equipment",
  "ethics", "evidence", "evolution", "fame", "fiction", "flour", "flu", "food", "fuel", "fun",
  "furniture", "gallows", "garbage", "garlic", "genetics", "gold", "golf", "gossip", "grammar",
  "gratitude", "grief", "guilt", "gymnastics", "happiness", "hardware", "harm", "hate", "hatred",
  "health", "heat", "help", "homework", "honesty", "honey", "hospitality", "housework", "humour",
  "hunger", "hydrogen", "ice", "importance", "inflation", "information", "innocence", "iron",
  "irony", "jam", "jewelry", "judo", "karate", "knowledge", "lack", "laughter", "lava", "leather",
  "leisure", "lightning", "linguine", "linguini", "linguistics", "literature", "litter",
  "livestock", "logic", "loneliness", "luck", "luggage", "macaroni", "machinery", "magic",
  "management", "mankind", "marble", "mathematics", "mayonnaise", "measles", "methane", "milk",
  "money", "mud", "music", "mumps", "nature", "news", "nitrogen", "nonsense", "nurture",
  "nutrition", "obedience", "obesity", "oxygen", "pasta", "patience", "physics", "poetry",
  "pollution", "poverty", "pride", "psychology", "publicity", "punctuation", "quartz", "racism",
  "relaxation", "reliability", "research", "respect", "revenge", "rice", "rubbish", "rum",
  "safety", "scenery", "seafood", "seaside", "series", "shame", "sheep", "shopping", "sleep",
  "smoke", "smoking", "snow", "soap", "software", "soil", "spaghetti", "species", "steam",
  "stuff", "stupidity", "sunshine", "symmetry", "tennis", "thirst", "thunder", "timber",
  "traffic", "transportation", "trust", "underwear", "unemployment", "unity", "validity", "veal",
  "vegetation", "vegetarianism", "vengeance", "violence", "vitality", "warmth", "wealth",
  "weather", "welfare", "wheat", "wildlife", "wisdom", "yoga", "zinc", "zoology"]

/-- Irregular plurals. -/
def irregularPlurals : List (String × String) := [
  ("ox", "oxen"), ("man", "men"), ("woman", "women"), ("die", "dice"), ("yes", "yeses"),
  ("foot", "feet"), ("eave", "eaves"), ("goose", "geese"), ("tooth", "teeth"), ("quiz", "quizzes")]

/-- Irregular singulars. -/
def irregularSingulars : List (String × String) := [
  ("oxen", "ox"), ("boxes", "box"), ("men", "man"), ("women", "woman"), ("dice", "die"),
  ("yeses", "yes"), ("feet", "foot"), ("eaves", "eave"), ("geese", "goose"), ("teeth", "tooth"),
  ("quizzes", "quiz")]

/-- A rule: the part of the word that is kept, what has to follow it, and the new ending. -/
structure NounRule where
  kept : String
  follows : String
  ending : String

/-- Endings of the plural; a later rule goes before an earlier one. -/
def pluralRules : List NounRule := [
  ⟨"\\w*", "s$", "s"⟩,
  ⟨"\\w*([^aeiou]ese)", "$", ""⟩,
  ⟨"\\w*(ax|test)", "is$", "es"⟩,
  ⟨"\\w*(alias|[^aou]us|tlas|gas|ris)", "$", "es"⟩,
  ⟨"\\w*(e[mn]u)", "s?$", "s"⟩,
  ⟨"\\w*([^l]ias|[aeiou]las|[emjzr]as|[iu]am)", "$", ""⟩,
  ⟨"\\w*(alumn|syllab|octop|vir|radi|nucle|fung|cact|stimul|termin|bacill|foc|uter|loc|strat)", "(?:us|i)$", "i"⟩,
  ⟨"\\w*(alumn|alg|vertebr)", "(?:a|ae)$", "ae"⟩,
  ⟨"\\w*(seraph|cherub)", "(?:im)?$", "im"⟩,
  ⟨"\\w*(her|at|gr)", "o$", "oes"⟩,
  ⟨"\\w*(agend|addend|millenni|dat|extrem|bacteri|desiderat|strat|candelabr|errat|ov|symposi|curricul|automat|quor)", "(?:a|um)$", "a"⟩,
  ⟨"\\w*(apheli|hyperbat|periheli|asyndet|noumen|phenomen|criteri|organ|prolegomen|hedr|automat)", "(?:a|on)$", "a"⟩,
  ⟨"\\w*", "sis$", "ses"⟩,
  ⟨"\\w*(kni|wi|li)", "fe$", "ves"⟩,
  ⟨"\\w*(ar|l|ea|eo|oa|hoo)", "f$", "ves"⟩,
  ⟨"\\w*([^aeiouy]|qu)", "y$", "ies"⟩,
  ⟨"\\w*([^ch][ieo][ln])", "ey$", "ies"⟩,
  ⟨"\\w*(x|ch|ss|sh|zz)es", "$", ""⟩,
  ⟨"\\w*(x|ch|ss|sh|zz)", "$", "es"⟩,
  ⟨"\\w*(matr|cod|mur|sil|vert|ind|append)", "(?:ix|ex)$", "ices"⟩,
  ⟨"\\w*(m|l)(?:ice|ouse)", "$", "ice"⟩,
  ⟨"\\w*(pe)(?:rson|ople)", "$", "ople"⟩,
  ⟨"\\w*(child)", "(?:ren)?$", "ren"⟩,
  ⟨"\\w*eaux", "$", ""⟩]

/-- Endings of the singular; a later rule goes before an earlier one. -/
def singularRules : List NounRule := [
  ⟨"\\w*", "s$", ""⟩,
  ⟨"\\w*(ss)", "$", ""⟩,
  ⟨"n", "ews$", "ews"⟩,
  ⟨"\\w*", "(o)es$", ""⟩,
  ⟨"\\w*", "([ti])a$", "um"⟩,
  ⟨"(a)naly|(b)a|(d)iagno|(p)arenthe|(p)rogno|(s)ynop|(t)he", "(sis|ses)$", "sis"⟩,
  ⟨"^analy", "(sis|ses)$", "sis"⟩,
  ⟨"\\w*", "([^f])ves$", "fe"⟩,
  ⟨"\\w*", "(hive)s$", ""⟩,
  ⟨"\\w*", "(tive)s$", ""⟩,
  ⟨"\\w*", "([lr])ves$", "f"⟩,
  ⟨"\\w*([^aeiouy]|qu)", "ies$", "y"⟩,
  ⟨"s", "eries$", "eries"⟩,
  ⟨"m", "ovies$", "ovie"⟩,
  ⟨"\\w*(x|ch|ss|sh)", "es$", ""⟩,
  ⟨"m|l", "ice$", "ouse"⟩,
  ⟨"bus", "(es)?$", ""⟩,
  ⟨"shoe", "s$", ""⟩,
  ⟨"cris|test", "(is|es)$", "is"⟩,
  ⟨"^a", "x[ie]s$", "xis"⟩,
  ⟨"octop|vir", "(us|i)$", "us"⟩,
  ⟨"alias|status", "(es)?$", ""⟩,
  ⟨"^ox", "en", ""⟩,
  ⟨"vert|ind", "ices$", "ex"⟩,
  ⟨"matr", "ices$", "ix"⟩,
  ⟨"quiz", "zes$", ""⟩,
  ⟨"database", "s$", ""⟩]

/-! ## Applying them -/

/-- A rule with its patterns read. -/
structure NounRule.Ready where
  kept : Pattern.Regex
  follows : Pattern.Regex
  ending : String

/-- The rules in the order in which they are tried. -/
def NounRule.prepare (rules : List NounRule) : List NounRule.Ready :=
  rules.reverse.filterMap fun r => do
    let kept ← Pattern.Regex.read? r.kept
    let follows ← Pattern.Regex.read? r.follows
    some ⟨kept, follows, r.ending⟩

/-- The plural rules in the order in which they are tried. -/
def pluralReady : List NounRule.Ready := NounRule.prepare pluralRules

/-- The singular rules in the order in which they are tried. -/
def singularReady : List NounRule.Ready := NounRule.prepare singularRules

/-- Applies a rule at the first place of the word where it matches. Of the word there remains the
part that is kept, and what stands before it is lost. -/
def NounRule.Ready.apply (r : NounRule.Ready) (word : String) : Option String :=
  let cs := word.toList.toArray
  (List.range (cs.size + 1)).findSome? fun start =>
    (r.kept.ends cs [start]).findSome? fun stop =>
      if (r.follows.ends cs [stop]).isEmpty then none
      else some (String.ofList (cs.extract start stop).toList ++ r.ending)

/-- The other number of a noun in lower case: the irregular form, or the first rule that applies, or
what `otherwise` makes of it. -/
def renumber (irregular : List (String × String)) (rules : List NounRule.Ready)
    (otherwise : String → String) (word : String) : String :=
  if uncountable.contains word then word
  else match irregular.lookup word with
    | some form => form
    | none => (rules.findSome? (·.apply word)).getD (otherwise word)

/-- A word changed in lower case and given back in the case it was written in: all capitals, a
leading capital, or neither. -/
def keepingCase (change : String → String) (word : String) : String :=
  if word.isEmpty then ""
  else
    let result := change (toLower word)
    let cs := word.toList
    if cs.any isUppercase && !cs.any isLowercase then toUpper result
    else if cs.head?.any isUppercase then capitalize result
    else result

/-- The plural of a noun. -/
def plural : String → String :=
  keepingCase (renumber irregularPlurals pluralReady (· ++ "s"))

/-- The singular of a noun. -/
def singular : String → String :=
  keepingCase (renumber irregularSingulars singularReady id)

end Cohort.Text
