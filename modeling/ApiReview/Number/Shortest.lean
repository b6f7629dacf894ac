import ApiReview.Number.Binary64

/-!
The decimal text of a finite number: the fewest digits that read back as the same number, and of
those the nearest. Exponents from -4 to 15 are written positionally, always with a point; all
others with a signed exponent of at least two digits.
-/

set_option autoImplicit false

namespace ApiReview.Binary64

/-- Compares `left · 10 ^ tens` with `right · 2 ^ twos`. -/
def compareDecimal (left : Nat) (tens : Int) (right : Nat) (twos : Int) : Ordering :=
  compare (left * tenTo tens.toNat * twoTo (-twos).toNat)
    (right * twoTo twos.toNat * tenTo (-tens).toNat)

/-- The reals that round to `mantissa · 2 ^ exponent`: bounds in quarters of the last place. The
lower half of the gap is smaller at a power of two, and the ends belong to even mantissas. -/
def roundsTo (mantissa : Nat) (exponent : Int) (digits : Nat) (tens : Int) : Bool :=
  let lower := if mantissa = twoTo 52 ∧ exponent > -1074 then 4 * mantissa - 1 else 4 * mantissa - 2
  let upper := 4 * mantissa + 2
  let even := mantissa % 2 = 0
  let low := compareDecimal digits tens lower (exponent - 2)
  let high := compareDecimal digits tens upper (exponent - 2)
  (low == .gt || (even && low == .eq)) && (high == .lt || (even && high == .eq))

/-- The exponent of the first decimal digit of a positive `mantissa · 2 ^ exponent`. -/
def leadingExponent (mantissa : Nat) (exponent : Int) : Int :=
  let candidates := (List.range 640).map fun offset => (310 : Int) - Int.ofNat offset
  (candidates.find? fun tens => compareDecimal 1 tens mantissa exponent != .gt).getD 0

/-- The closest of the two neighbours on a decimal grid that reads back, if one does. -/
def onGrid? (mantissa : Nat) (exponent : Int) (tens : Int) : Option Nat :=
  let scaledNumerator := mantissa * twoTo exponent.toNat * tenTo (-tens).toNat
  let scaledDenominator := twoTo (-exponent).toNat * tenTo tens.toNat
  let below := scaledNumerator / scaledDenominator
  let nearest := roundQuotient scaledNumerator scaledDenominator
  let other := if nearest = below then below + 1 else below
  if roundsTo mantissa exponent nearest tens then some nearest
  else if roundsTo mantissa exponent other tens then some other
  else none

/-- The fewest digits that read back as a positive `mantissa · 2 ^ exponent`, with the power of
ten they count. -/
def shortestDigits (mantissa : Nat) (exponent : Int) : Nat × Int :=
  let leading := leadingExponent mantissa exponent
  let found := (List.range 17).findSome? fun places =>
    let tens := leading - Int.ofNat places
    (onGrid? mantissa exponent tens).map fun digits => (digits, tens)
  found.getD (mantissa, exponent)

/-- Decimal digits without trailing zeros, and the position of the point behind the first of
them counted from the left. -/
def trimmedDigits (digits : Nat) (tens : Int) : List Char × Int :=
  let written := (toString digits).toList
  let kept := (written.reverse.dropWhile (· == '0')).reverse
  (kept, Int.ofNat written.length + tens)

/-- The text of an exponent: a sign and at least two digits. -/
def exponentText (exponent : Int) : List Char :=
  let size := (toString exponent.natAbs).toList
  (if exponent < 0 then '-' else '+') :: (if size.length < 2 then '0' :: size else size)

def layout (digits : List Char) (point : Int) : List Char :=
  if -4 < point ∧ point ≤ 16 then
    if point ≤ 0 then '0' :: '.' :: (List.replicate (-point).toNat '0' ++ digits)
    else
      let whole := digits.take point.toNat
      let fraction := digits.drop point.toNat
      let padding := List.replicate (point.toNat - digits.length) '0'
      whole ++ padding ++ '.' :: (if fraction.isEmpty then ['0'] else fraction)
  else
    match digits with
    | [] => []
    | [digit] => digit :: 'e' :: exponentText (point - 1)
    | digit :: more => digit :: '.' :: (more ++ 'e' :: exponentText (point - 1))

/-- The text of a number: `undefined`, `infinite` and the sign are spelled by the caller's
format. -/
def textWith (undefined infinite : String) (x : Binary64) : String :=
  let sign (negative : Bool) := if negative then "-" else ""
  match x.value with
  | .undefined => undefined
  | .infinite negative => sign negative ++ infinite
  | .finite negative 0 _ => sign negative ++ "0.0"
  | .finite negative mantissa exponent =>
    let (digits, tens) := shortestDigits mantissa exponent
    let (digits, point) := trimmedDigits digits tens
    sign negative ++ String.ofList (layout digits point)

def text (x : Binary64) : String := textWith "nan" "inf" x

end ApiReview.Binary64
