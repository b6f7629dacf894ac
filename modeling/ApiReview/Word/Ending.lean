import ApiReview.Text.Basic
import ApiReview.Word.Lexicon

/-!
Regular inflection of lower case words by two ordered lists of rules. A rule keeps the stem that
it finds and replaces the ending behind it; the first rule that finds its pattern decides. Letters
are compared without regard to case, and the end of a word may be followed by one line end.
-/

set_option autoImplicit false

namespace ApiReview.WordEnding

open ApiReview.Text

/-- What a rule asks of one character. -/
inductive CharTest
  /-- The letter itself, in any case. -/
  | letter (c : Char)
  /-- Exactly this character. -/
  | exactly (c : Char)
  /-- Anything but these letters, in any case. -/
  | noneOf (letters : List Char)
  deriving DecidableEq, Repr

/-- Whether a character passes. -/
def CharTest.accepts : CharTest → Char → Bool
  | .letter wanted, c => Letter.fold c == wanted
  | .exactly wanted, c => c == wanted
  | .noneOf letters, c => !letters.contains (Letter.fold c)

/-- One form that a part of a word can take. -/
abbrev Form := List CharTest

/-- The letters of a text, in any case. -/
def form (text : String) : Form := text.toList.map .letter

def forms (texts : List String) : List Form := texts.map form

/-- Takes the characters that match a form from the front of a text. -/
def take? : Form → List Char → Option (List Char × List Char)
  | [], text => some ([], text)
  | _ :: _, [] => none
  | test :: tests, c :: rest =>
    if test.accepts c then (take? tests rest).map fun (taken, behind) => (c :: taken, behind)
    else none

/-- Replaces an ending behind a kept stem. Alternatives are tried in order, the stem's first. -/
structure Rule where
  /-- The pattern starts with the word. -/
  atStart : Bool := false
  stems : List Form
  endings : List Form
  /-- The pattern ends with the word. -/
  atEnd : Bool := true
  replacement : String
  deriving Repr

def isWordEnd (rest : List Char) : Bool := rest == [] || rest == ['\n']

/-- The text with the rule applied at its front, if the pattern is there. -/
def Rule.inflectHere? (rule : Rule) (text : List Char) : Option (List Char) :=
  rule.stems.findSome? fun stem =>
    (take? stem text).bind fun (kept, rest) =>
      rule.endings.findSome? fun ending =>
        (take? ending rest).bind fun (_, rest) =>
          if rule.atEnd && !isWordEnd rest then none
          else some (kept ++ rule.replacement.toList ++ rest)

/-- The word with the rule applied at the leftmost place of its pattern, if there is one. -/
def Rule.inflect? (rule : Rule) : List Char → Option (List Char)
  | [] => rule.inflectHere? []
  | c :: rest =>
    match rule.inflectHere? (c :: rest) with
    | some result => some result
    | none => if rule.atStart then none else (rule.inflect? rest).map (c :: ·)

/-- A rule that keeps one of the stems and replaces what is behind. -/
def ending (stems : List String) (endings : List String) (replacement : String) : Rule :=
  { stems := forms stems, endings := forms endings, replacement }

def whole (stems : List String) (endings : List String) (replacement : String) : Rule :=
  { atStart := true, stems := forms stems, endings := forms endings, replacement }

/-- The plural rules, but for the last, which adds an `s`. -/
def pluralRules : List Rule :=
  [ending ["z"] ["ombies"] "ombies",
   ending ["z"] ["ombie"] "ombies",
   { stems := [[]], endings := ["kine".toList.map .exactly], replacement := "kine" },
   { stems := [[]], endings := ["cow".toList.map .exactly], replacement := "kine" },
   ending ["m"] ["oves"] "oves",
   ending ["m"] ["ove"] "oves",
   ending ["s"] ["exes"] "exes",
   ending ["s"] ["ex"] "exes",
   ending ["c"] ["hildren"] "hildren",
   ending ["c"] ["hild"] "hildren",
   ending ["h"] ["umans"] "umans",
   ending ["h"] ["uman"] "umans",
   ending ["m"] ["en"] "en",
   ending ["m"] ["an"] "en",
   ending ["p"] ["eople"] "eople",
   ending ["p"] ["erson"] "eople",
   ending ["quiz"] [""] "zes",
   whole ["oxen"] [""] "",
   whole ["ox"] [""] "en",
   ending ["m", "l"] ["ice"] "ice",
   ending ["m", "l"] ["ouse"] "ice",
   ending ["passer"] ["sby", "by"] "sby",
   ending ["matr", "vert", "ind"] ["ix", "ex"] "ices",
   ending ["x", "ch", "ss", "sh"] [""] "es",
   { stems := [[.noneOf ['a', 'e', 'i', 'o', 'u', 'y']], form "qu"], endings := forms ["y"],
     replacement := "ies" },
   ending ["hive"] [""] "s",
   ending ["l", "r"] ["f"] "ves",
   { stems := [[.noneOf ['f']]], endings := forms ["fe"], replacement := "ves" },
   ending [""] ["sis"] "ses",
   ending ["t", "i"] ["a"] "a",
   ending ["t", "i"] ["um"] "a",
   ending ["buffal", "potat", "tomat"] ["o"] "oes",
   ending ["bu"] ["s"] "ses",
   ending ["alias", "status"] [""] "es",
   ending ["octop", "vir"] ["i"] "i",
   ending ["octop", "vir"] ["us"] "i",
   whole ["ax", "test"] ["is"] "es",
   ending [""] ["s"] "s"]

def singularRules : List Rule :=
  [ending ["z"] ["ombies"] "ombie",
   { stems := [[]], endings := ["kine".toList.map .exactly], replacement := "cow" },
   ending ["m"] ["oves"] "ove",
   ending ["s"] ["exes"] "ex",
   ending ["c"] ["hildren"] "hild",
   ending ["h"] ["umans"] "uman",
   ending ["m"] ["en"] "an",
   ending ["p"] ["eople"] "erson",
   ending ["database"] ["s"] "",
   ending ["quiz"] ["zes"] "",
   ending ["matr"] ["ices"] "ix",
   ending ["vert", "ind"] ["ices"] "ex",
   ending ["passer"] ["sby"] "by",
   { atStart := true, stems := forms ["ox"], endings := forms ["en"], atEnd := false,
     replacement := "" },
   ending ["alias", "status"] ["es", ""] "",
   ending ["octop", "vir"] ["us", "i"] "us",
   whole ["a"] ["xis", "xes"] "xis",
   ending ["cris", "test"] ["is", "es"] "is",
   ending ["shoe"] ["s"] "",
   ending ["o"] ["es"] "",
   ending ["bus"] ["es", ""] "",
   ending ["m", "l"] ["ice"] "ouse",
   ending ["x", "ch", "ss", "sh"] ["es"] "",
   ending ["m"] ["ovies"] "ovie",
   ending ["s"] ["eries"] "eries",
   { stems := [[.noneOf ['a', 'e', 'i', 'o', 'u', 'y']], form "qu"], endings := forms ["ies"],
     replacement := "y" },
   ending ["l", "r"] ["ves"] "f",
   ending ["tive"] ["s"] "",
   ending ["hive"] ["s"] "",
   { stems := [[.noneOf ['f']]], endings := forms ["ves"], replacement := "fe" },
   ending ["t"] ["hesis", "heses"] "hesis",
   ending ["s"] ["ynopsis", "ynopses"] "ynopsis",
   ending ["p"] ["rognosis", "rognoses"] "rognosis",
   ending ["p"] ["arenthesis", "arentheses"] "arenthesis",
   ending ["d"] ["iagnosis", "iagnoses"] "iagnosis",
   ending ["b"] ["asis", "ases"] "asis",
   ending ["a"] ["nalysis", "nalyses"] "nalysis",
   ending ["t", "i"] ["a"] "um",
   ending ["n"] ["ews"] "ews",
   ending ["ss"] [""] "",
   ending [""] ["s"] ""]

/-- An `s` at the end of the word; before a line end at the end of the word too. -/
def addS (word : List Char) : List Char :=
  if word.getLast? == some '\n' then word.dropLast ++ ['s', '\n', 's'] else word ++ ['s']

/-- The plural of a lower case word that no table lists. -/
def pluralize (word : String) : String :=
  if word.isEmpty || Lexicon.generalUncountables.contains word then word
  else
    let chars := word.toList
    String.ofList ((pluralRules.findSome? (·.inflect? chars)).getD (addS chars))

/-- Whether a word ends in an uncountable one that starts at a word boundary. -/
def endsUncountable (word : List Char) : Bool :=
  Lexicon.generalUncountables.any fun uncountable =>
    let start := word.length - uncountable.toList.length
    uncountable.toList == (word.drop start).map Letter.fold
      && !(word.take start).getLast?.any Letter.isWordPart

/-- The singular of a lower case word that no table lists. -/
def singularize (word : String) : String :=
  let chars := word.toList
  if endsUncountable chars then word
  else String.ofList ((singularRules.findSome? (·.inflect? chars)).getD chars)

end ApiReview.WordEnding
