import ApiReview.Text.CaseTable
import ApiReview.Text.ClassTable

/-!
Classes and case mappings of single characters, for the whole of Unicode. The ASCII range is
answered directly, the rest from the tables.
-/

set_option autoImplicit false

namespace ApiReview.Text

namespace Letter

/-- The letters `A` to `Z`. -/
def isAsciiUpper (c : Char) : Bool := 'A' ≤ c && c ≤ 'Z'

/-- The letters `a` to `z`. -/
def isAsciiLower (c : Char) : Bool := 'a' ≤ c && c ≤ 'z'

/-- The digits `0` to `9`. -/
def isAsciiDigit (c : Char) : Bool := '0' ≤ c && c ≤ '9'

/-- Upper case letters of every script. -/
def isUpper (c : Char) : Bool :=
  if c.toNat < 0x80 then isAsciiUpper c else Span.anyContains CaseTable.upperCase c.toNat

def isLower (c : Char) : Bool :=
  if c.toNat < 0x80 then isAsciiLower c else Span.anyContains CaseTable.lowerCase c.toNat

def isAlphanumeric (c : Char) : Bool :=
  if c.toNat < 0x80 then isAsciiUpper c || isAsciiLower c || isAsciiDigit c
  else Span.anyContains ClassTable.alphanumeric c.toNat

/-- Characters of a word: letters, numbers and the underscore. -/
def isWordPart (c : Char) : Bool := isAlphanumeric c || c == '_'

/-- The value of a decimal digit of any script. -/
def decimalValue? (c : Char) : Option Nat :=
  if c.toNat < 0x80 then
    if isAsciiDigit c then some (c.toNat - '0'.toNat) else none
  else
    let runs := ClassTable.decimalZeros.flatMap fun span =>
      (List.range 10).filter fun value =>
        value ≤ c.toNat && span.contains (c.toNat - value)
    runs.head?

def isDecimal (c : Char) : Bool := (decimalValue? c).isSome

/-- Decimal digits and the digits that belong to no decimal run, such as superscripts. -/
def isDigit (c : Char) : Bool := isDecimal c || Span.anyContains ClassTable.otherDigits c.toNat

/-- Blanks: spaces, tabs, line ends and the separators of control code. -/
def isBlank (c : Char) : Bool := Span.anyContains ClassTable.blank c.toNat

def isPrintable (c : Char) : Bool :=
  if c.toNat < 0x80 then ' ' ≤ c && c ≤ '~' else Span.anyContains ClassTable.printable c.toNat

/-- Characters that the rule for a final sigma looks through. -/
def isCaseIgnorable (c : Char) : Bool := Span.anyContains ClassTable.caseIgnorable c.toNat

/-- Letters that have case. -/
def isCased (c : Char) : Bool :=
  isUpper c || isLower c || Span.anyContains CaseTable.titleCase c.toNat

/-- The mapping of a code point under a table of long and short mappings. -/
def mapped? (long : List (Nat × List Nat)) (short : List Shift) (code : Nat) :
    Option (List Char) :=
  match long.lookup code with
  | some codes => some (codes.map Char.ofNat)
  | none => (Shift.image? short code).map fun image => [Char.ofNat image]

/-- The lower case form of a character that stands alone. -/
def lower (c : Char) : List Char :=
  if c.toNat < 0x80 then
    if isAsciiUpper c then [Char.ofNat (c.toNat + 32)] else [c]
  else (mapped? CaseTable.toLowerLong CaseTable.toLower c.toNat).getD [c]

def upper (c : Char) : List Char :=
  if c.toNat < 0x80 then
    if isAsciiLower c then [Char.ofNat (c.toNat - 32)] else [c]
  else (mapped? CaseTable.toUpperLong CaseTable.toUpper c.toNat).getD [c]

/-- The title case form of a character, for the start of a capitalised word. -/
def title (c : Char) : List Char :=
  if c.toNat < 0x80 then upper c
  else (mapped? CaseTable.toTitleLong CaseTable.toTitle c.toNat).getD (upper c)

/-- The character that stands for `c` where letter case does not count, as far as letters of the
Latin alphabet are concerned: capitals, the Kelvin sign, both other letters `i` and the long `s`
count as the plain small letter. -/
def fold (c : Char) : Char :=
  if isAsciiUpper c then Char.ofNat (c.toNat + 32)
  else if c.toNat == 0x212A then 'k'
  else if c.toNat == 0x130 || c.toNat == 0x131 then 'i'
  else if c.toNat == 0x17F then 's'
  else c

end Letter

end ApiReview.Text
