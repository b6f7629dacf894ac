import ApiReview.Text.Basic

/-!
The words of a path segment and the casing styles that join them. Words end at hyphens and
underscores, where a capital follows a small letter or digit, and before the last capital of a run
that a small letter follows.
-/

set_option autoImplicit false

namespace ApiReview

open ApiReview.Text

/-- A way to join words into a segment. -/
inductive CasingStyle
  | snake
  | kebab
  | camel
  | pascal
  | lower
  deriving DecidableEq, Repr

namespace CasingStyle

def all : List CasingStyle := [.snake, .kebab, .camel, .pascal, .lower]

/-- The name of a style, itself written in the style. -/
def name : CasingStyle → String
  | .snake => "snake_case"
  | .kebab => "kebab-case"
  | .camel => "camelCase"
  | .pascal => "PascalCase"
  | .lower => "lowercase"

def ofName? (name : String) : Option CasingStyle := all.find? fun style => style.name == name

end CasingStyle

namespace Segment

/-- Hyphens and underscores separate words. -/
def isSeparator (c : Char) : Bool := c == '-' || c == '_'

/-- Whether a word ends between a character and the text behind it. -/
def isBoundary (c : Char) : List Char → Bool
  | [] => false
  | next :: rest =>
    ((Letter.isAsciiLower c || Letter.isAsciiDigit c) && Letter.isAsciiUpper next)
      || (Letter.isAsciiUpper c && Letter.isAsciiUpper next && rest.head?.any Letter.isAsciiLower)

/-- The pieces between the cuts, of which some may be empty. -/
def pieces : List Char → List (List Char)
  | [] => [[]]
  | c :: rest =>
    if isSeparator c then [] :: pieces rest
    else if isBoundary c rest then [c] :: pieces rest
    else
      match pieces rest with
      | [] => [[c]]
      | piece :: more => (c :: piece) :: more

def wordChars (segment : List Char) : List (List Char) :=
  (pieces segment).filter fun piece => !piece.isEmpty

def words (segment : String) : List String := (wordChars segment.toList).map String.ofList

/-- The head noun of a compound segment, which is its last word; a segment without words stands
for itself. -/
def lastWord (segment : String) : String := (words segment).getLast?.getD segment

/-- The style that a segment is written in. -/
def style (segment : String) : CasingStyle :=
  let chars := segment.toList
  if chars.contains '_' then .snake
  else if chars.contains '-' then .kebab
  else if startsLower chars && chars.any Letter.isUpper then .camel
  else if startsUpper chars then .pascal
  else .lower

def join (words : List String) (style : CasingStyle) : String :=
  let words := words.map Text.lower
  match style with
  | .snake => String.intercalate "_" words
  | .kebab => String.intercalate "-" words
  | .camel =>
    match words with
    | [] => ""
    | first :: rest => first ++ String.join (rest.map capitalize)
  | .pascal => String.join (words.map capitalize)
  | .lower => String.join words

def convert (segment : String) (style : CasingStyle) : String := join (words segment) style

end Segment

end ApiReview
