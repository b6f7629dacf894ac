import ApiReview.Text.Casing

/-!
Cutting, trimming and replacing in texts, stated on lists of characters.
-/

set_option autoImplicit false

namespace ApiReview.Text

/-- The text without the leading characters that pass the test. -/
def trimStart (drops : Char → Bool) (text : List Char) : List Char := text.dropWhile drops

/-- The text without the trailing characters that pass the test. -/
def trimEnd (drops : Char → Bool) (text : List Char) : List Char :=
  (text.reverse.dropWhile drops).reverse

def trimBlanks (text : List Char) : List Char :=
  trimEnd Letter.isBlank (trimStart Letter.isBlank text)

/-- Whether `part` stands somewhere in the text. -/
def occursIn (part : List Char) : List Char → Bool
  | [] => part.isEmpty
  | c :: rest => part.isPrefixOf (c :: rest) || occursIn part rest

/-- The text behind its first occurrence of `part`, and the text before it. -/
def splitFirst? (part : List Char) : List Char → Option (List Char × List Char)
  | [] => if part.isEmpty then some ([], []) else none
  | c :: rest =>
    if part.isPrefixOf (c :: rest) then some ([], (c :: rest).drop part.length)
    else (splitFirst? part rest).map fun (before, behind) => (c :: before, behind)

/-- The text around the last occurrence of `part`: what stands before it and what behind. -/
def splitLast? (part text : List Char) : Option (List Char × List Char) :=
  (splitFirst? part.reverse text.reverse).map fun (before, behind) =>
    (behind.reverse, before.reverse)

/-- The text with every `first` that `second` follows replaced, with it, by `replacement`. -/
def replacePairs (first second replacement : Char) : List Char → List Char
  | [] => []
  | [c] => [c]
  | c :: d :: rest =>
    if c = first ∧ d = second then replacement :: replacePairs first second replacement rest
    else c :: replacePairs first second replacement (d :: rest)

/-- Whether a predicate on whole texts holds when one line end behind the text does not count. -/
def atLineEnd (holds : List Char → Bool) (text : List Char) : Bool :=
  holds text || (text.getLast? == some '\n' && holds text.dropLast)

/-- Whether `part` stands somewhere in the text. -/
def contains (text part : String) : Bool := occursIn part.toList text.toList

def hasChar (text : String) (c : Char) : Bool := text.toList.contains c

/-- Whether the text starts with `part`. -/
def startsWith (text part : String) : Bool := part.toList.isPrefixOf text.toList

/-- Whether the text ends with `part`. -/
def endsWith (text part : String) : Bool := part.toList.isSuffixOf text.toList

def splitOn (separator : Char) (text : String) : List String :=
  (text.toList.splitOn separator).map String.ofList

/-- Texts in the order of their code points, each once. -/
def sortedUnique (texts : List String) : List String :=
  (texts.mergeSort fun left right => decide (left ≤ right)).eraseDups

end ApiReview.Text
