import ApiReview.Word.Tag

/-!
What the library knows of a word: whether it reads as a verb or a noun, whether it has a plural,
and its plural and singular. Questions are answered from the lower case form of the word; the
inflected forms take over a leading capital.
-/

set_option autoImplicit false

namespace ApiReview

open ApiReview.Text

/-- Where a word is read. In a path it is read as if a determiner stood before it, which settles
the ambiguity of verb forms the way a sentence would. -/
inductive WordContext
  | path
  | general
  deriving DecidableEq, Repr

/-- The answers about one word. -/
structure WordAnalysis where
  isVerb : Bool
  isNoun : Bool
  isUncountable : Bool
  tag : Tag
  deriving DecidableEq, Repr

/-- Gives a result a capital when the word it comes from has one. -/
def matchCapital (word result : String) : String :=
  if startsUpper word.toList then
    match result.toList with
    | [] => result
    | c :: rest => String.ofList (Letter.upper c ++ rest)
  else result

namespace LowerWord

def tag (word : String) : WordContext → Tag
  | .path => (Tag.ofWord word).afterDeterminer
  | .general => Tag.ofWord word

/-- Whether a lower case word is a verb. A plural noun in a path is none, though its form may be a
verb's. -/
def isVerb (word : String) (context : WordContext) : Bool :=
  if Lexicon.actionVerbs.contains word then true
  else if Lexicon.pathUncountables.contains word then false
  else if !(tag word .general).isVerb then false
  else
    match context with
    | .path => !(tag word .path).isNoun
    | .general => true

def isNoun (word : String) (context : WordContext) : Bool :=
  if Lexicon.pathUncountables.contains word then true
  else if Lexicon.actionVerbs.contains word then false
  else (tag word context).isNoun

/-- Whether a lower case word has no plural. -/
def isUncountable (word : String) : Bool :=
  Lexicon.pathUncountables.contains word || Lexicon.generalUncountables.contains word

/-- Whether the ending of a word already is that of a plural. -/
def hasPluralEnding (word : String) : Bool :=
  endsWith word "s" && !(endsWith word "ss" || endsWith word "us")

/-- The plural of a lower case word: from the tables, the word itself if it looks plural already,
else by rule. -/
def pluralize (word : String) : String :=
  if Lexicon.pathUncountables.contains word then word
  else
    match Lexicon.irregularPlural? word with
    | some plural => plural
    | none =>
      if (Lexicon.irregularSingular? word).isSome then word
      else if hasPluralEnding word then word
      else WordEnding.pluralize word

/-- The singular of a lower case word: from the tables, else by rule. -/
def singularize (word : String) : String :=
  match Lexicon.irregularSingular? word with
  | some singular => singular
  | none =>
    if (Lexicon.irregularPlural? word).isSome then word
    else if Lexicon.pathUncountables.contains word then word
    else WordEnding.singularize word

end LowerWord

/-- Answers about words as the rules ask for them. Verbs and nouns are read in a path. -/
structure Vocabulary where
  isVerb : String → Bool
  isNoun : String → Bool
  isUncountable : String → Bool
  pluralize : String → String
  singularize : String → String

/-- An inflected form of a word; the empty word has no other form. -/
def inflected (inflect : String → String) (word : String) : String :=
  if word.isEmpty then word else matchCapital word (inflect (lower word))

namespace Vocabulary

def standard : Vocabulary where
  isVerb word := LowerWord.isVerb (lower word) .path
  isNoun word := LowerWord.isNoun (lower word) .path
  isUncountable word := LowerWord.isUncountable (lower word)
  pluralize := inflected LowerWord.pluralize
  singularize := inflected LowerWord.singularize

end Vocabulary

end ApiReview
