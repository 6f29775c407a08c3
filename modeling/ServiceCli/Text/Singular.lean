import ServiceCli.Text.Letters

/-!
The singular of an English noun in lower case: nouns without a plural, irregular plurals, then a
list of ending rules of which the first that applies decides. Where a rule applies, what stands
before the stem it knows is dropped.
-/
namespace ServiceCli.Text.Singular

/-- Nouns that are their own singular. -/
def uncountable : List String :=
  ["accommodation", "adulthood", "advertising", "advice", "aggression", "aid", "air", "aircraft",
   "alcohol", "anger", "applause", "arithmetic", "assistance", "athletics", "bacon", "baggage",
   "beef", "biology", "blood", "botany", "bread", "butter", "carbon", "cardboard", "cash",
   "chalk", "chaos", "chess", "crossroads", "countryside", "dancing", "deer", "dignity", "dirt",
   "dust", "economics", "education", "electricity", "engineering", "enjoyment", "envy",
   "equipment", "ethics", "evidence", "evolution", "fame", "fiction", "flour", "flu", "food",
   "fuel", "fun", "furniture", "gallows", "garbage", "garlic", "genetics", "gold", "golf",
   "gossip", "grammar", "gratitude", "grief", "guilt", "gymnastics", "happiness", "hardware",
   "harm", "hate", "hatred", "health", "heat", "help", "homework", "honesty", "honey",
   "hospitality", "housework", "humour", "hunger", "hydrogen", "ice", "importance", "inflation",
   "information", "innocence", "iron", "irony", "jam", "jewelry", "judo", "karate", "knowledge",
   "lack", "laughter", "lava", "leather", "leisure", "lightning", "linguine", "linguini",
   "linguistics", "literature", "litter", "livestock", "logic", "loneliness", "luck", "luggage",
   "macaroni", "machinery", "magic", "management", "mankind", "marble", "mathematics",
   "mayonnaise", "measles", "methane", "milk", "money", "mud", "music", "mumps", "nature", "news",
   "nitrogen", "nonsense", "nurture", "nutrition", "obedience", "obesity", "oxygen", "pasta",
   "patience", "physics", "poetry", "pollution", "poverty", "pride", "psychology", "publicity",
   "punctuation", "quartz", "racism", "relaxation", "reliability", "research", "respect",
   "revenge", "rice", "rubbish", "rum", "safety", "scenery", "seafood", "seaside", "series",
   "shame", "sheep", "shopping", "sleep", "smoke", "smoking", "snow", "soap", "software", "soil",
   "spaghetti", "species", "steam", "stuff", "stupidity", "sunshine", "symmetry", "tennis",
   "thirst", "thunder", "timber", "traffic", "transportation", "trust", "underwear",
   "unemployment", "unity", "validity", "veal", "vegetation", "vegetarianism", "vengeance",
   "violence", "vitality", "warmth", "wealth", "weather", "welfare", "wheat", "wildlife",
   "wisdom", "yoga", "zinc", "zoology"]

/-- Plurals that no ending rule gets right, with their singulars. -/
def irregular : List (String × String) :=
  [("oxen", "ox"), ("boxes", "box"), ("men", "man"), ("women", "woman"), ("dice", "die"),
   ("yeses", "yes"), ("feet", "foot"), ("eaves", "eave"), ("geese", "goose"), ("teeth", "tooth"),
   ("quizzes", "quiz")]

/-- What precedes an ending, if the word has it. -/
def before? (ending word : List Char) : Option (List Char) :=
  if ending.isSuffixOf word then some (word.take (word.length - ending.length)) else none

/-- The longest run of word characters at the end of a text. -/
def trailingRun (word : List Char) : List Char :=
  (word.reverse.takeWhile isWordChar).reverse

/-- A rule gives the singular of the words it applies to. -/
abbrev Rule := List Char → Option (List Char)

/-- Words that end in one of `stems` and one of `endings`: the stem and `tail`. Of two stems that
both fit, the one listed first is taken. -/
def knownStem (stems endings : List String) (tail : String) : Rule := fun word =>
  stems.findSome? fun stem => endings.findSome? fun ending =>
    (before? (stem.toList ++ ending.toList) word).map fun _ => stem.toList ++ tail.toList

/-- Like `knownStem` for words that consist of the stem and the ending. -/
def wholeWord (stem : String) (endings : List String) (tail : String) : Rule := fun word =>
  endings.findSome? fun ending =>
    if word = stem.toList ++ ending.toList then some (stem.toList ++ tail.toList) else none

/-- Words that start with `start`, whatever follows: `stem`. -/
def startsWith (start stem : String) : Rule := fun word =>
  if start.toList.isPrefixOf word then some stem.toList else none

/-- Words with one of `endings`: the trailing run of word characters before it, and `tail`. -/
def anyStem (endings : List String) (tail : String) : Rule := fun word =>
  endings.findSome? fun ending =>
    (before? ending.toList word).map fun stem => trailingRun stem ++ tail.toList

/-- Words with a character that satisfies `p` before `ending`: the run before that character, the
character itself if it is kept, and `tail`. -/
def charBefore (p : Char → Bool) (ending : String) (keep : Bool) (tail : String) : Rule :=
  fun word =>
    match (before? ending.toList word).map List.reverse with
    | some (c :: stem) =>
      if p c then
        some (trailingRun stem.reverse ++ (if keep then [c] else []) ++ tail.toList)
      else none
    | _ => none

/-- Words in `quies`: the run up to `qu`, and a `y`. -/
def quies : Rule := fun word =>
  (before? "quies".toList word).map fun stem => trailingRun stem ++ "quy".toList

def isVowelOrY (c : Char) : Bool := c ∈ ['a', 'e', 'i', 'o', 'u', 'y']

/-- The ending rules in the order in which they are tried. -/
def rules : List Rule :=
  [knownStem ["database"] ["s"] "",
   knownStem ["quiz"] ["zes"] "",
   knownStem ["matr"] ["ices"] "ix",
   knownStem ["vert", "ind"] ["ices"] "ex",
   startsWith "oxen" "ox",
   knownStem ["alias", "status"] ["", "es"] "",
   knownStem ["octop", "vir"] ["us", "i"] "us",
   wholeWord "a" ["xis", "xes"] "xis",
   knownStem ["cris", "test"] ["is", "es"] "is",
   knownStem ["shoe"] ["s"] "",
   knownStem ["bus"] ["", "es"] "",
   knownStem ["m", "l"] ["ice"] "ouse",
   anyStem ["xes"] "x",
   anyStem ["ches"] "ch",
   anyStem ["sses"] "ss",
   anyStem ["shes"] "sh",
   knownStem ["m"] ["ovies"] "ovie",
   knownStem ["s"] ["eries"] "eries",
   charBefore (!isVowelOrY ·) "ies" true "y",
   quies,
   charBefore (· ∈ ['l', 'r']) "ves" false "f",
   anyStem ["tives"] "",
   anyStem ["hives"] "",
   charBefore (· != 'f') "ves" false "fe",
   wholeWord "analy" ["sis", "ses"] "sis",
   knownStem ["analy", "ba", "diagno", "parenthe", "progno", "synop", "the"] ["sis", "ses"] "sis",
   charBefore (· ∈ ['t', 'i']) "a" false "um",
   anyStem ["oes"] "",
   knownStem ["n"] ["ews"] "ews",
   anyStem ["ss"] "ss",
   anyStem ["s"] ""]

end Singular

/-- The singular of a noun; a word to which nothing applies is returned unchanged. -/
def singular (word : String) : String :=
  if word ∈ Singular.uncountable then word
  else match Singular.irregular.lookup word with
    | some s => s
    | none => ((Singular.rules.findSome? (· word.toList)).map String.ofList).getD word

end ServiceCli.Text
