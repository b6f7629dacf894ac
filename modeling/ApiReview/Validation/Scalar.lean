import ApiReview.Number.Decimal
import ApiReview.Node.Equality
import ApiReview.Validation.Basic

/-!
Checks of flags and numbers. They take values of other kinds that mean a flag or number: a flag
may be given as a word or as zero or one, a number as its text.
-/

set_option autoImplicit false

namespace ApiReview.Checker

open ApiReview.Text

/-- The words for a flag that is not set. -/
def clearedWords : List String := ["0", "off", "f", "false", "n", "no"]

def setWords : List String := ["1", "on", "t", "true", "y", "yes"]

/-- The flag that a word means, in any letter case. -/
def flagOfWord? (word : String) : Option Bool :=
  let small := lower word
  if clearedWords.contains small then some false
  else if setWords.contains small then some true
  else none

def flagOfNumber? (number : Int) : Option Bool :=
  if number = 0 then some false else if number = 1 then some true else none

/-- Whether a whole number fits into a 64-bit register. -/
def fitsRegister (number : Int) : Bool := -(twoTo 63) ≤ number && number < twoTo 63

/-- The whole number that a number of limited precision stands for. Beyond the register's range
there is none, and its lower end does not count. -/
def wholeOf (number : Binary64) : Checked Int :=
  if !number.isFinite then .flawed .notFinite
  else
    match number.toInt? with
    | none => .flawed .wholeHasFraction
    | some whole =>
      if fitsRegister whole && whole != -(twoTo 63) then .valid whole else .flawed .wholeTooLong

/-- Takes flags, zero and one, and the words for flags. -/
def flag : Checker Bool
  | .bool value => .valid value
  | .str word => .ofOption .flagUnreadable (flagOfWord? word)
  | .int number =>
    if fitsRegister number then .ofOption .flagUnreadable (flagOfNumber? number)
    else .flawed .noFlag
  | .float number =>
    match wholeOf number with
    | .valid whole => .ofOption .flagUnreadable (flagOfNumber? whole)
    | .invalid _ => .flawed .noFlag
  | _ => .flawed .noFlag

/-- Spaces around a number's text: blanks but for the separators of control code. -/
def isMargin (c : Char) : Bool := Letter.isBlank c && !(0x1C ≤ c.toNat && c.toNat ≤ 0x1F)

def withoutMargins (text : List Char) : List Char := trimEnd isMargin (trimStart isMargin text)

/-- The text behind zeros at its start, with underscores among them. Where a point or the end of the
text follows, the last zero stays. A sign may stand in front of the zeros or behind them. -/
def behindZeros? (last : Char) : List Char → Option (List Char)
  | [] => some [last]
  | c :: rest =>
    if c == '0' || c == '_' then behindZeros? c rest
    else if c == '-' || '1' ≤ c && c ≤ '9' then some (c :: rest)
    else if c == '.' then some (last :: c :: rest)
    else none

/-- The text of a number without a plus sign and zeros at its start. -/
def withoutLead? (text : List Char) : Option (List Char) :=
  let unsigned :=
    match text with
    | '+' :: '-' :: _ => []
    | '+' :: rest => rest
    | text => text
  match unsigned with
  | [] => none
  | c :: rest =>
    if c == '0' then behindZeros? c rest
    else if c == '-' || '1' ≤ c && c ≤ '9' then some (c :: rest)
    else none

/-- The text without a point and zeros at its end. There has to be a zero behind the point. -/
def withoutZeroFraction (text : List Char) : List Char :=
  let whole := text.takeWhile (· != '.')
  let fraction := text.drop (whole.length + 1)
  if !fraction.isEmpty && fraction.all (· == '0') then whole else text

/-- The text without underscores, if each of them stands alone between other characters. -/
def withoutMarks (text : List Char) : List Char := (Integer.withoutGroupMarks? text).getD text

/-- The number that plain digits write. More than one of them do not start with a zero. -/
def plainDigits? (digits : List Char) : Option Nat :=
  if digits.isEmpty || !digits.all Letter.isAsciiDigit then none
  else if digits.head? == some '0' && 1 < digits.length then none
  else Integer.ofDigits? digits

/-- The digits that a text for a whole number comes down to, perhaps behind a minus sign. -/
def wholeDigits? (text : List Char) : Option (List Char) :=
  (withoutLead? (withoutMargins text)).map fun text => withoutMarks (withoutZeroFraction text)

/-- The whole number that digits write, perhaps behind a minus sign. -/
def wholeOfDigits? : List Char → Option Int
  | '-' :: digits => (plainDigits? digits).map fun number => -Int.ofNat number
  | digits => (plainDigits? digits).map Int.ofNat

def wholeOfText (text : List Char) : Checked Int :=
  match wholeDigits? text with
  | none => .flawed .wholeUnreadable
  | some digits =>
    if Integer.isTooLong digits then .flawed .wholeTooLong
    else .ofOption .wholeUnreadable (wholeOfDigits? digits)

/-- Takes whole numbers, flags as zero and one, numbers without a fraction, and their texts. -/
def whole : Checker Int
  | .int number => .valid number
  | .bool value => .valid (if value then 1 else 0)
  | .float number => wholeOf number
  | .str content => wholeOfText content.toList
  | _ => .flawed .noWhole

def infinityNames : List String := ["inf", "infinity"]

/-- A character with its capital letters as small ones; letters outside ASCII stay. -/
def smallAscii (c : Char) : Char := if Letter.isAsciiUpper c then Letter.fold c else c

/-- The number that a text writes, in digits or by the name of an infinity or of no number. -/
def numberOfText? (text : List Char) : Option Binary64 :=
  let (negative, name) := Integer.splitSign text
  let small := String.ofList (name.map smallAscii)
  if infinityNames.contains small then some (.infinity negative)
  else if small == "nan" then some .undefinedNumber
  else Decimal.read? text

/-- Takes numbers, flags as zero and one, and the texts of numbers. -/
def number : Checker Binary64
  | .int value =>
    let nearest := Binary64.ofInt value
    if nearest.isFinite then .valid nearest else .flawed .noNumber
  | .bool value => .valid (.ofInt (if value then 1 else 0))
  | .float value => .valid value
  | .str content =>
    .ofOption .numberUnreadable <|
      (numberOfText? (withoutMargins content.toList)).or
        ((Integer.withoutGroupMarks? content.toList).bind numberOfText?)
  | _ => .flawed .noNumber

/-- Whether one number is known to be at most another. -/
def isAtMost (left right : Binary64) : Bool :=
  match left.value.compare? right.value with
  | some order => order != .gt
  | none => false

/-- Takes numbers from zero to one. -/
def share : Checker Binary64 := fun node =>
  match number node with
  | .valid value =>
    if !isAtMost value (.ofInt 1) then .flawed .tooLarge
    else if !isAtMost (.ofInt 0) value then .flawed .tooSmall
    else .valid value
  | .invalid problems => .invalid problems

end ApiReview.Checker
