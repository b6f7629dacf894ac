import ApiReview.Word.Ending

/-!
Parts of speech of single words. A table of verb forms is consulted first; any other word is
judged by its shape.
-/

set_option autoImplicit false

namespace ApiReview

open ApiReview.Text

/-- A part of speech. -/
inductive Tag
  | baseVerb
  | pastVerb
  | thirdPersonVerb
  | gerund
  | noun
  | pluralNoun
  | determiner
  | cardinal
  deriving DecidableEq, Repr

def Tag.code : Tag → String
  | .baseVerb => "VB"
  | .pastVerb => "VBD"
  | .thirdPersonVerb => "VBZ"
  | .gerund => "VBG"
  | .noun => "NN"
  | .pluralNoun => "NNS"
  | .determiner => "DT"
  | .cardinal => "CD"

/-- Verb forms that are verbs on their own. -/
def Tag.isVerb : Tag → Bool
  | .baseVerb | .pastVerb | .thirdPersonVerb => true
  | _ => false

/-- Parts of speech that name things; a gerund does. -/
def Tag.isNoun : Tag → Bool
  | .noun | .pluralNoun | .gerund => true
  | _ => false

/-- The reading after a determiner, where the noun reading of a verb form wins. -/
def Tag.afterDeterminer : Tag → Tag
  | .baseVerb => .noun
  | .thirdPersonVerb => .pluralNoun
  | tag => tag

namespace WordShape

/-- A decimal number: digits with an optional sign and fraction. -/
def isNumber (word : List Char) : Bool :=
  let unsigned := if word.head? == some '-' then word.drop 1 else word
  let whole := unsigned.takeWhile Letter.isDecimal
  let rest := unsigned.dropWhile Letter.isDecimal
  !whole.isEmpty &&
    match rest with
    | [] => true
    | '.' :: fraction => !fraction.isEmpty && fraction.all Letter.isDecimal
    | _ => false

def isArticle (word : List Char) : Bool :=
  word == "the".toList || word == "a".toList || word == "an".toList

/-- At least `least` characters of a word in front of the ending. -/
def isWordWith (least : Nat) (ending : String) (word : List Char) : Bool :=
  let stem := word.take (word.length - ending.toList.length)
  word == stem ++ ending.toList && least ≤ stem.length && stem.all Letter.isWordPart

/-- Two or more characters of a word, one that is no `e`, and the ending of a past form. -/
def isPast (word : List Char) : Bool :=
  let stem := word.take (word.length - 3)
  match word.drop stem.length with
  | [c, 'e', 'd'] => c != 'e' && 2 ≤ stem.length && stem.all Letter.isWordPart
  | _ => false

/-- The part of speech that the shape of a word suggests. One line end behind the word does not
count. -/
def tag (word : List Char) : Tag :=
  if atLineEnd isNumber word then .cardinal
  else if atLineEnd isArticle word then .determiner
  else if atLineEnd (isWordWith 1 "ings") word then .pluralNoun
  else if atLineEnd (isWordWith 2 "ing") word then .gerund
  else if atLineEnd isPast word then .pastVerb
  else if ["ss", "us", "is"].any fun ending => atLineEnd (isWordWith 1 ending) word then .noun
  else if atLineEnd (isWordWith 1 "s") word then .pluralNoun
  else .noun

end WordShape

def thirdPersonForms : List String := Lexicon.actionVerbs.map WordEnding.pluralize

/-- The part of speech of a lower case word that stands alone. -/
def Tag.ofWord (word : String) : Tag :=
  if Lexicon.actionVerbs.contains word then .baseVerb
  else if thirdPersonForms.contains word then .thirdPersonVerb
  else WordShape.tag word.toList

end ApiReview
