import ApiReview.Number.Binary64
import ApiReview.Number.Integer

/-!
Decimal numbers with a fraction or an exponent, as they are written. Only the digits `0` to `9`
count here.
-/

set_option autoImplicit false

namespace ApiReview.Decimal

open ApiReview.Text

/-- The whole number behind an exponent mark; without a mark it is zero. -/
def readExponent? : List Char → Option Int
  | [] => some 0
  | mark :: rest =>
    let (negative, digits) := Integer.splitSign rest
    if Letter.fold mark != 'e' || digits.isEmpty || !digits.all Letter.isAsciiDigit then none
    else
      (Integer.ofDigits? digits).map fun size =>
        if negative then -Int.ofNat size else Int.ofNat size

/-- The digits behind a point, and the text behind them; without a point there are none. -/
def splitFraction : List Char → List Char × List Char
  | '.' :: rest => (rest.takeWhile Letter.isAsciiDigit, rest.dropWhile Letter.isAsciiDigit)
  | text => ([], text)

/-- Reads an optional sign, digits with a point before, between or behind them or none at all, and
an optional exponent. -/
def read? (text : List Char) : Option Binary64 := do
  let (negative, text) := Integer.splitSign text
  let whole := text.takeWhile Letter.isAsciiDigit
  let (fraction, rest) := splitFraction (text.dropWhile Letter.isAsciiDigit)
  let exponent ← readExponent? rest
  if (whole ++ fraction).isEmpty then none
  else
    let digits ← Integer.ofDigits? (whole ++ fraction)
    some (Binary64.ofDecimal negative digits (exponent - Int.ofNat fraction.length))

end ApiReview.Decimal
