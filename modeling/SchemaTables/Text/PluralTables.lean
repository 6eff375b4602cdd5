/-
  SchemaTables.Text.PluralTables
  ──────────────────────────────
  **THE TABLES OF ENGLISH PLURALS.**

  Irregular words with their plurals, words without a plural, and the rules
  by which the end of any other word changes.  Later rules take precedence
  over earlier ones, and the patterns of unchanging words over all rules.

  The new text of a rule is a template: `$0` stands for the whole match and
  `$1`, `$2`, … for its groups.
-/
import SchemaTables.Text.Pattern

namespace SchemaTables.Text

/-! ## §1. Irregular words. -/

/-- Words and their plurals. -/
def irregularPlurals : List (String × String) :=
  [ ("I", "we"), ("me", "us"), ("he", "they"), ("she", "they"),
    ("them", "them"), ("myself", "ourselves"), ("yourself", "yourselves"),
    ("itself", "themselves"), ("herself", "themselves"),
    ("himself", "themselves"), ("themself", "themselves"), ("is", "are"),
    ("was", "were"), ("has", "have"), ("this", "these"), ("that", "those"),
    ("my", "our"), ("its", "their"), ("his", "their"), ("her", "their"),
    ("echo", "echoes"), ("dingo", "dingoes"), ("volcano", "volcanoes"),
    ("tornado", "tornadoes"), ("torpedo", "torpedoes"), ("genus", "genera"),
    ("viscus", "viscera"), ("stigma", "stigmata"), ("stoma", "stomata"),
    ("dogma", "dogmata"), ("lemma", "lemmata"), ("schema", "schemata"),
    ("anathema", "anathemata"), ("ox", "oxen"), ("axe", "axes"),
    ("die", "dice"), ("yes", "yeses"), ("foot", "feet"), ("eave", "eaves"),
    ("goose", "geese"), ("tooth", "teeth"), ("quiz", "quizzes"),
    ("human", "humans"), ("proof", "proofs"), ("carve", "carves"),
    ("valve", "valves"), ("looey", "looies"), ("thief", "thieves"),
    ("groove", "grooves"), ("pickaxe", "pickaxes"),
    ("passerby", "passersby"), ("canvas", "canvases") ]

/-! ## §2. Words without a plural. -/

/-- Words that stay as they are. -/
def unchangingWords : List String :=
  [ "adulthood", "advice", "agenda", "aid", "aircraft", "alcohol", "ammo",
    "analytics", "anime", "athletics", "audio", "bison", "blood", "bream",
    "buffalo", "butter", "carp", "cash", "chassis", "chess", "clothing",
    "cod", "commerce", "cooperation", "corps", "debris", "diabetes",
    "digestion", "elk", "energy", "equipment", "excretion", "expertise",
    "firmware", "flounder", "fun", "gallows", "garbage", "graffiti",
    "hardware", "headquarters", "health", "herpes", "highjinks", "homework",
    "housework", "information", "jeans", "justice", "kudos", "labour",
    "literature", "machinery", "mackerel", "mail", "media", "mews", "moose",
    "music", "mud", "manga", "news", "only", "personnel", "pike",
    "plankton", "pliers", "police", "pollution", "premises", "rain",
    "research", "rice", "salmon", "scissors", "series", "sewage",
    "shambles", "shrimp", "software", "staff", "swine", "tennis", "traffic",
    "transportation", "trout", "tuna", "wealth", "welfare", "whiting",
    "wildebeest", "wildlife", "you" ]

/-! ## §3. Rules. -/

/-- What a word must look like, and the template for the matched part. -/
structure PluralRule where
  pattern : Pattern
  template : String

open Pattern

/-- A rule for words with one of these endings, which form its group. -/
def groupedEnding (stems : List String) (tail : Pattern)
    (template : String) : PluralRule :=
  ⟨.group (anyWord stems) >> tail >> .atEnd, template⟩

/-- The rules for ordinary words, the most general first. -/
def pluralRules : List PluralRule :=
  [ ⟨.opt (word "s") >> .atEnd, "s"⟩,
    ⟨.one (fun c => 128 ≤ (fold c).toNat) >> .atEnd, "$0"⟩,
    ⟨.group (noneOf "aeiou" >> word "ese") >> .atEnd, "$1"⟩,
    groupedEnding ["ax", "test"] (word "is") "$1es",
    ⟨.group (word "alias" <|> noneOf "aou" >> word "us"
        <|> word "t" >> oneOf "lm" >> word "as" <|> word "gas"
        <|> word "ris") >> .atEnd, "$1es"⟩,
    ⟨.group (word "e" >> oneOf "mn" >> word "u") >> .opt (word "s")
        >> .atEnd, "$1s"⟩,
    ⟨.group (noneOf "l" >> word "ias" <|> oneOf "aeiou" >> word "las"
        <|> oneOf "ejzr" >> word "as" <|> oneOf "iu" >> word "am")
        >> .atEnd, "$1"⟩,
    groupedEnding
      [ "alumn", "syllab", "vir", "radi", "nucle", "fung", "cact", "stimul",
        "termin", "bacill", "foc", "uter", "loc", "strat" ]
      (word "us" <|> word "i") "$1i",
    groupedEnding ["alumn", "alg", "vertebr"] (word "a" <|> word "ae") "$1ae",
    groupedEnding ["seraph", "cherub"] (.opt (word "im")) "$1im",
    groupedEnding ["her", "at", "gr"] (word "o") "$1oes",
    groupedEnding
      [ "agend", "addend", "millenni", "dat", "extrem", "bacteri",
        "desiderat", "strat", "candelabr", "errat", "ov", "symposi",
        "curricul", "automat", "quor" ]
      (word "a" <|> word "um") "$1a",
    groupedEnding
      [ "apheli", "hyperbat", "periheli", "asyndet", "noumen", "phenomen",
        "criteri", "organ", "prolegomen", "hedr", "automat" ]
      (word "a" <|> word "on") "$1a",
    ⟨word "sis" >> .atEnd, "ses"⟩,
    ⟨(.group (anyWord ["kni", "wi", "li"]) >> word "fe"
        <|> .group (anyWord ["ar", "l", "ea", "eo", "oa", "hoo"])
          >> word "f") >> .atEnd, "$1$2ves"⟩,
    ⟨.group (noneOf "aeiouy" <|> word "qu") >> word "y" >> .atEnd, "$1ies"⟩,
    ⟨.group (noneOf "ch" >> oneOf "ieo" >> oneOf "ln") >> word "ey"
        >> .atEnd, "$1ies"⟩,
    groupedEnding ["x", "ch", "ss", "sh", "zz"] .nothing "$1es",
    groupedEnding ["matr", "cod", "mur", "sil", "vert", "ind", "append"]
      (word "ix" <|> word "ex") "$1ices",
    ⟨.wordEdge >> .group (.opt (word "tit") >> word "m" <|> word "l")
        >> (word "ice" <|> word "ouse") >> .atEnd, "$1ice"⟩,
    groupedEnding ["pe"] (word "rson" <|> word "ople") "$1ople",
    groupedEnding ["child"] (.opt (word "ren")) "$1ren",
    ⟨word "eaux" >> .atEnd, "$0"⟩,
    ⟨word "m" >> oneOf "ae" >> word "n" >> .atEnd, "men"⟩,
    ⟨.atStart >> word "thou" >> .atEnd, "you"⟩ ]

/-- The endings of words that stay as they are. -/
def unchangingEndings : List Pattern :=
  [ word "pok" >> .one (fun c => fold c = 'e' || (fold c).toNat = 0xE9)
      >> word "mon" >> .atEnd,
    noneOf "aeiou" >> word "ese" >> .atEnd,
    word "deer" >> .atEnd,
    word "fish" >> .atEnd,
    word "measles" >> .atEnd,
    word "o" >> oneOf "iu" >> word "s" >> .atEnd,
    word "pox" >> .atEnd,
    word "sheep" >> .atEnd ]

/-- All rules in the order in which they are tried. -/
def rulesInOrder : List PluralRule :=
  (pluralRules ++ unchangingEndings.map (PluralRule.mk · "$0")).reverse

end SchemaTables.Text
