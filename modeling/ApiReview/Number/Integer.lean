import ApiReview.Number.Power
import ApiReview.Text.Basic

/-!
Whole numbers written in decimal, with the digits of any script, and in hexadecimal. A decimal
number with too many digits is neither read nor written.
-/

set_option autoImplicit false

namespace ApiReview.Integer

open ApiReview.Text

/-- The number that digits write, or nothing when a character is no decimal digit. The empty list
writes zero. -/
def ofDigits? (digits : List Char) : Option Nat :=
  digits.foldl (fun number digit => do
    let number ← number
    let value ← Letter.decimalValue? digit
    some (10 * number + value)) (some 0)

/-- The greatest number of decimal digits with which a number is read or written. -/
def digitLimit : Nat := 4300

/-- Whether digits are too many for a number; zeros in front count, too. -/
def isTooLong (digits : List Char) : Bool := digitLimit < digits.length

def isUnwritable (number : Int) : Bool := tenTo digitLimit ≤ number.natAbs

/-- The number that digits write, unless there are too many of them. -/
def ofFewDigits? (digits : List Char) : Option Nat :=
  if isTooLong digits then none else ofDigits? digits

def hexValue? (c : Char) : Option Nat :=
  if Letter.isAsciiDigit c then some (c.toNat - '0'.toNat)
  else if 'a' ≤ c && c ≤ 'f' then some (c.toNat - 'a'.toNat + 10)
  else if 'A' ≤ c && c ≤ 'F' then some (c.toNat - 'A'.toNat + 10)
  else none

def ofHexDigits? (digits : List Char) : Option Nat :=
  digits.foldl (fun number digit => do
    let number ← number
    let value ← hexValue? digit
    some (16 * number + value)) (some 0)

/-- Digits with single underscores between them, without the underscores. -/
def withoutGroupMarks? : List Char → Option (List Char)
  | [] => none
  | [c] => if c == '_' then none else some [c]
  | '_' :: _ => none
  | c :: '_' :: rest => (withoutGroupMarks? rest).map (c :: ·)
  | c :: rest => (withoutGroupMarks? rest).map (c :: ·)

def splitSign : List Char → Bool × List Char
  | '-' :: rest => (true, rest)
  | '+' :: rest => (false, rest)
  | text => (false, text)

/-- Reads an optional sign and digits, with single underscores between digits and blanks around
the whole. -/
def read? (text : List Char) : Option Int := do
  let (negative, digits) := splitSign (trimBlanks text)
  let digits ← withoutGroupMarks? digits
  let number ← ofDigits? digits
  some (if negative then -Int.ofNat number else Int.ofNat number)

/-- Reads a number as `read?` does, unless it has too many digits. -/
def readShort? (text : List Char) : Option Int :=
  if isTooLong (text.filter Letter.isDecimal) then none else read? text

def text (number : Int) : String := toString number

end ApiReview.Integer
