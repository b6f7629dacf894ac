import ApiReview.Fault
import ApiReview.Node.Basic
import ApiReview.Number.Decimal

/-!
What plain scalars mean. A plain scalar is a flag, a number, null, a moment or one of a few marks
when it has the form of one, and a text otherwise. Quoted scalars are always texts. A scalar of some
form need not have a value: there are days that no month has.
-/

set_option autoImplicit false

namespace ApiReview.Yaml

open ApiReview.Text

/-- What a plain scalar is. -/
inductive PlainKind
  | text
  | null
  | flag (value : Bool)
  | whole
  | real
  | moment
  /-- The key under which an object takes over members of others. -/
  | merge
  /-- The key that stands for a value of its own. -/
  | standIn
  /-- Marks that are reserved. -/
  | reserved
  deriving DecidableEq, Repr

namespace Plain

/-- The words for flags, each also in capitals or with one capital in front. -/
def flagWords : List (String × Bool) :=
  [("yes", true), ("Yes", true), ("YES", true), ("no", false), ("No", false), ("NO", false),
   ("true", true), ("True", true), ("TRUE", true), ("false", false), ("False", false),
   ("FALSE", false), ("on", true), ("On", true), ("ON", true), ("off", false), ("Off", false),
   ("OFF", false)]

/-- The words for null. -/
def nullWords : List String := ["", "~", "null", "Null", "NULL"]

def infinityWords : List String := [".inf", ".Inf", ".INF"]

/-- The words for no number. -/
def undefinedWords : List String := [".nan", ".NaN", ".NAN"]

def isDigitOrMark (c : Char) : Bool := Letter.isAsciiDigit c || c == '_'

def withoutMarks (text : List Char) : List Char := text.filter (· != '_')

/-! ## Forms -/

/-- Whether a text is a number below sixty, of one or two digits. -/
def isSixtieth : List Char → Bool
  | [c] => Letter.isAsciiDigit c
  | [c, d] => '0' ≤ c && c ≤ '5' && Letter.isAsciiDigit d
  | _ => false

/-- Whether a text without a sign has the form of a whole number: in base two, sixteen, eight, ten
or sixty. There may be underscores alone for digits. -/
def isMagnitude : List Char → Bool
  | [] => false
  | ['0'] => true
  | '0' :: 'b' :: digits => !digits.isEmpty && digits.all fun c => c == '0' || c == '1' || c == '_'
  | '0' :: 'x' :: digits =>
    !digits.isEmpty && digits.all fun c => (Integer.hexValue? c).isSome || c == '_'
  | '0' :: digits => digits.all fun c => '0' ≤ c && c ≤ '7' || c == '_'
  | first :: rest =>
    let parts := (first :: rest).splitOn ':'
    Letter.isAsciiDigit first && (parts.headD []).all isDigitOrMark
      && (parts.drop 1).all isSixtieth

def isWhole (text : List Char) : Bool := isMagnitude (Integer.splitSign text).2

def isExponent : List Char → Bool
  | [] => true
  | mark :: sign :: digits =>
    (mark == 'e' || mark == 'E') && (sign == '+' || sign == '-')
      && !digits.isEmpty && digits.all Letter.isAsciiDigit
  | _ => false

/-- Whether a text has the form of a number with a point. Without digits in front of the point
there is no sign. -/
def isPointed (text : List Char) : Bool :=
  let (_, body) := Integer.splitSign text
  let whole := body.takeWhile isDigitOrMark
  match body.dropWhile isDigitOrMark with
  | '.' :: rest =>
    let fraction := rest.takeWhile isDigitOrMark
    isExponent (rest.dropWhile isDigitOrMark)
      && (if whole.isEmpty then body == text && fraction.head?.any Letter.isAsciiDigit
          else whole.head?.any Letter.isAsciiDigit)
  | _ => false

/-- Whether a text has the form of a number with a point in base sixty. -/
def isPointedSixties (text : List Char) : Bool :=
  let (_, body) := Integer.splitSign text
  let parts := (body.takeWhile (· != '.')).splitOn ':'
  match body.dropWhile (· != '.') with
  | '.' :: fraction =>
    let first := parts.headD []
    1 < parts.length && first.all isDigitOrMark && first.head?.any Letter.isAsciiDigit
      && (parts.drop 1).all isSixtieth && fraction.all isDigitOrMark
  | _ => false

/-- Whether a text has the form of a number with a point, an infinity or the mark for no number. -/
def isReal (text : List Char) : Bool :=
  let (_, body) := Integer.splitSign text
  infinityWords.contains (String.ofList body) || undefinedWords.contains (String.ofList text)
    || isPointed text || isPointedSixties text

/-! ## Values -/

/-- The number that digits write in a base; nothing without digits. -/
def inBase? (base : Nat) (digits : List Char) : Option Nat :=
  if digits.isEmpty then none
  else
    digits.foldl (fun number digit => do
      let value ← Integer.hexValue? digit
      if value < base then some (base * (← number) + value) else none) (some 0)

/-- The whole number that a text writes in a base: blanks, a sign, perhaps a zero with the base's
letter, and digits. -/
def signedInBase? (base : Nat) (letter : Char) (text : List Char) : Option Int := do
  let (negative, body) := Integer.splitSign (trimBlanks text)
  let digits :=
    match body with
    | '0' :: c :: rest => if Letter.fold c == letter then rest else body
    | body => body
  let number ← inBase? base digits
  some (if negative then -Int.ofNat number else Int.ofNat number)

/-- The whole number that parts write in base sixty. -/
def wholeInSixties? (parts : List (List Char)) : Option Int :=
  parts.foldl (fun number part => do some (60 * (← number) + (← Integer.readShort? part))) (some 0)

/-- The size of a whole number by its text behind the sign. -/
def wholeSize? (text : List Char) : Option Int :=
  match text with
  | ['0'] => some 0
  | '0' :: 'b' :: digits => signedInBase? 2 'b' digits
  | '0' :: 'x' :: digits => signedInBase? 16 'x' digits
  | '0' :: digits => signedInBase? 8 'o' ('0' :: digits)
  | text =>
    if text.contains ':' then wholeInSixties? (text.splitOn ':') else Integer.readShort? text

/-- The whole number that a text writes. Underscores do not count; without anything else, or with
nothing behind the sign, there is no place to read at. -/
def wholeValue (text : String) : Except Fault Int :=
  let (negative, body) := Integer.splitSign (withoutMarks text.toList)
  if body.isEmpty then .error .outOfRange
  else
    match wholeSize? body with
    | some size => .ok (if negative then -size else size)
    | none => .error .badValue

/-- The number that a text writes by digits or a name, with blanks around it. -/
def number? (text : List Char) : Option Binary64 :=
  let text := (trimBlanks text).map fun c =>
    match Letter.decimalValue? c with
    | some value => Char.ofNat ('0'.toNat + value)
    | none => c
  let (negative, body) := Integer.splitSign text
  let name := String.ofList body
  if name == "inf" || name == "infinity" then some (.infinity negative)
  else if name == "nan" then some .undefinedNumber
  else Decimal.read? text

/-- The number that parts write in base sixty. Every step is rounded, from the last part on. -/
def realInSixties? (parts : List (List Char)) : Option Binary64 := do
  let digits ← parts.mapM number?
  let (sum, _) := digits.reverse.foldl
    (fun (sum, unit) digit => (sum.add (digit.mul (.ofInt unit)), 60 * unit))
    (Binary64.ofInt 0, (1 : Int))
  some sum

/-- The number that a text writes behind its sign, in small letters. -/
def realSize? (text : List Char) : Option Binary64 :=
  if String.ofList text == ".inf" then some (.infinity false)
  else if String.ofList text == ".nan" then some .undefinedNumber
  else if text.contains ':' then realInSixties? (text.splitOn ':')
  else number? text

/-- The number that a text writes. Underscores do not count. -/
def realValue (text : String) : Except Fault Binary64 :=
  let chars := (lower (String.ofList (withoutMarks text.toList))).toList
  let (negative, body) := Integer.splitSign chars
  if chars.isEmpty then .error .outOfRange
  else
    match realSize? body with
    | some size => .ok (if negative then size.negated else size)
    | none => .error .badValue

/-! ## Moments -/

/-- The number of some digits, of which there are as many as allowed, and the text behind them. -/
def digits? (least most : Nat) (text : List Char) : Option (Nat × List Char) :=
  let digits := (text.take most).takeWhile Letter.isAsciiDigit
  if least ≤ digits.length then
    (Integer.ofDigits? digits).map fun number => (number, text.drop digits.length)
  else none

def behind? (c : Char) : List Char → Option (List Char)
  | [] => none
  | d :: rest => if c == d then some rest else none

def isMomentSpace (c : Char) : Bool := c == ' ' || c == '\t'

/-- The shift from universal time at the end of a text, perhaps behind spaces; a text that is empty
has none. -/
def shift? (text : List Char) : Option (Option Int) :=
  match text.dropWhile isMomentSpace with
  | [] => if text.isEmpty then some none else none
  | ['Z'] => some (some 0)
  | sign :: rest => do
    let (hours, rest) ← digits? 1 2 rest
    let minutes ←
      match rest with
      | [] => some 0
      | ':' :: rest => (digits? 2 2 rest).bind fun (minutes, rest) =>
        if rest.isEmpty then some minutes else none
      | _ => none
    let shift := Int.ofNat (hours * 60 + minutes)
    if sign == '-' then some (some (-shift)) else if sign == '+' then some (some shift) else none

/-- The microseconds behind a point, of which digits behind the sixth do not count. -/
def microseconds (digits : List Char) : Nat :=
  let shown := digits.take 6
  (Integer.ofDigits? shown).getD 0 * tenTo (6 - shown.length)

/-- The fraction of a second at the front of a text, and the text behind it. -/
def fraction : List Char → Nat × List Char
  | '.' :: rest =>
    (microseconds (rest.takeWhile Letter.isAsciiDigit), rest.dropWhile Letter.isAsciiDigit)
  | text => (0, text)

def behindDay? : List Char → Option (List Char)
  | [] => none
  | c :: rest =>
    if c == 'T' || c == 't' then some rest
    else if isMomentSpace c then some (rest.dropWhile isMomentSpace)
    else none

/-- The moment that a text has the form of, which the calendar need not have. -/
def moment? (text : List Char) : Option Moment := do
  let (year, rest) ← digits? 4 4 text
  let (month, rest) ← digits? 1 2 (← behind? '-' rest)
  let (day, rest) ← digits? 1 2 (← behind? '-' rest)
  if rest.isEmpty then some (.date ⟨year, month, day⟩)
  else
    let (hour, rest) ← digits? 1 2 (← behindDay? rest)
    let (minute, rest) ← digits? 2 2 (← behind? ':' rest)
    let (second, rest) ← digits? 2 2 (← behind? ':' rest)
    let (microsecond, rest) := fraction rest
    some (.time ⟨year, month, day⟩ ⟨hour, minute, second, microsecond⟩ (← shift? rest))

/-- The length of a day that is written with all its digits. -/
def dayLength : Nat := 10

/-- Whether a text has the form of a moment. A day alone has all its digits. -/
def isMoment (text : List Char) : Bool :=
  match moment? text with
  | some (.date _) => text.length == dayLength
  | some (.time ..) => true
  | none => false

def momentValue (text : String) : Except Fault Moment :=
  match moment? text.toList with
  | some moment => if moment.isValid then .ok moment else .error .badValue
  | none => .error .notAnObject

/-! ## Kinds -/

/-- What a plain scalar is. -/
def kind (text : String) : PlainKind :=
  let chars := text.toList
  if nullWords.contains text then .null
  else if text == "<<" then .merge
  else if text == "=" then .standIn
  else if ["!", "&", "*"].contains text then .reserved
  else
    match flagWords.lookup text with
    | some value => .flag value
    | none =>
      if isReal chars then .real
      else if isWhole chars then .whole
      else if isMoment chars then .moment
      else .text

end Plain

end ApiReview.Yaml
