import ApiReview.Number.Power

/-!
Numbers of the 64-bit binary interchange format, kept as their bits. A finite number is decoded
into a whole mantissa times a power of two; decimals are rounded to the nearest number, ties to
the even mantissa; and comparison with whole numbers is exact.
-/

set_option autoImplicit false

namespace ApiReview

/-- A number of the 64-bit binary format. -/
structure Binary64 where
  bits : UInt64
  deriving DecidableEq, Repr

namespace Binary64

/-- What a bit pattern stands for: `mantissa · 2 ^ exponent` with a sign, an infinity, or no
number. -/
inductive Value
  | finite (negative : Bool) (mantissa : Nat) (exponent : Int)
  | infinite (negative : Bool)
  | undefined
  deriving DecidableEq, Repr

/-- The meaning of the bits. -/
def value (x : Binary64) : Value :=
  let bits := x.bits.toNat
  let negative := bits / twoTo 63 == 1
  let field := bits / twoTo 52 % twoTo 11
  let fraction := bits % twoTo 52
  if field = 2047 then
    if fraction = 0 then .infinite negative else .undefined
  else if field = 0 then .finite negative fraction (-1074)
  else .finite negative (twoTo 52 + fraction) (Int.ofNat field - 1075)

def ofMagnitude (negative : Bool) (magnitude : Nat) : Binary64 :=
  ⟨UInt64.ofNat (if negative then twoTo 63 + magnitude else magnitude)⟩

def infinity (negative : Bool) : Binary64 := ofMagnitude negative (2047 * twoTo 52)

/-- The pattern that stands for no number. -/
def undefinedNumber : Binary64 := ofMagnitude false (2047 * twoTo 52 + twoTo 51)

/-- The quotient rounded to the nearest whole number, ties to the even one. -/
def roundQuotient (numerator denominator : Nat) : Nat :=
  let quotient := numerator / denominator
  let remainder := numerator % denominator
  if 2 * remainder < denominator then quotient
  else if 2 * remainder > denominator then quotient + 1
  else if quotient % 2 = 0 then quotient else quotient + 1

/-- `numerator / denominator` scaled by `2 ^ (-exponent)`, as a fraction. -/
def scaledFraction (numerator denominator : Nat) (exponent : Int) : Nat × Nat :=
  if exponent < 0 then (numerator * twoTo (-exponent).toNat, denominator)
  else (numerator, denominator * twoTo exponent.toNat)

/-- The number nearest to a fraction, ties to the even mantissa; too large a fraction gives an
infinity. -/
def ofFraction (negative : Bool) (numerator denominator : Nat) : Binary64 :=
  if numerator = 0 then ofMagnitude negative 0
  else
    let estimate : Int := Int.ofNat numerator.log2 - Int.ofNat denominator.log2 - 52
    let (scaled, unit) := scaledFraction numerator denominator estimate
    let exponent := max (-1074) (if scaled < unit * twoTo 52 then estimate - 1 else estimate)
    let (scaled, unit) := scaledFraction numerator denominator exponent
    let magnitude := (exponent + 1074).toNat * twoTo 52 + roundQuotient scaled unit
    if magnitude < 2047 * twoTo 52 then ofMagnitude negative magnitude else infinity negative

/-- The number nearest to `digits · 10 ^ exponent`. -/
def ofDecimal (negative : Bool) (digits : Nat) (exponent : Int) : Binary64 :=
  let size := Int.ofNat (digits.log2 / 3) + exponent
  if digits = 0 then ofMagnitude negative 0
  else if size < -800 then ofMagnitude negative 0
  else if exponent > 400 then infinity negative
  else if exponent < 0 then ofFraction negative digits (tenTo (-exponent).toNat)
  else ofFraction negative (digits * tenTo exponent.toNat) 1

/-- The number nearest to a whole number. -/
def ofInt (number : Int) : Binary64 := ofFraction (number < 0) number.natAbs 1

/-- The number nearest to `number · 2 ^ exponent`, with the given sign. -/
def ofScaled (negative : Bool) (number : Nat) (exponent : Int) : Binary64 :=
  if exponent < 0 then ofFraction negative number (twoTo (-exponent).toNat)
  else ofFraction negative (number * twoTo exponent.toNat) 1

/-- Compares `left · 2 ^ leftExponent` with `right · 2 ^ rightExponent`. -/
def compareScaled (left : Int) (leftExponent : Int) (right : Int) (rightExponent : Int) :
    Ordering :=
  let base := min leftExponent rightExponent
  compare (left * twoTo (leftExponent - base).toNat) (right * twoTo (rightExponent - base).toNat)

def signed (negative : Bool) (mantissa : Nat) : Int :=
  if negative then -Int.ofNat mantissa else Int.ofNat mantissa

/-- The number nearest to the product of two numbers. There is none when one of them is not
finite. -/
def mul (left right : Binary64) : Binary64 :=
  match left.value, right.value with
  | .finite leftSign left leftExponent, .finite rightSign right rightExponent =>
    ofScaled (leftSign != rightSign) (left * right) (leftExponent + rightExponent)
  | _, _ => undefinedNumber

/-- The number nearest to the sum of two numbers. There is none when one of them is not finite. -/
def add (left right : Binary64) : Binary64 :=
  match left.value, right.value with
  | .finite leftSign left leftExponent, .finite rightSign right rightExponent =>
    let base := min leftExponent rightExponent
    let sum := signed leftSign (left * twoTo (leftExponent - base).toNat)
      + signed rightSign (right * twoTo (rightExponent - base).toNat)
    ofScaled (sum < 0 || leftSign && rightSign) sum.natAbs base
  | _, _ => undefinedNumber

/-- Orders two values; nothing when one of them is no number. -/
def Value.compare? : Value → Value → Option Ordering
  | .undefined, _ => none
  | _, .undefined => none
  | .infinite left, .infinite right =>
    some (if left = right then .eq else if left then .lt else .gt)
  | .infinite negative, .finite .. => some (if negative then .lt else .gt)
  | .finite .., .infinite negative => some (if negative then .gt else .lt)
  | .finite leftSign left leftExponent, .finite rightSign right rightExponent =>
    some (compareScaled (signed leftSign left) leftExponent (signed rightSign right) rightExponent)

/-- The whole number that a number is, if it is one. -/
def toInt? (x : Binary64) : Option Int :=
  match x.value with
  | .finite negative mantissa exponent =>
    if exponent ≥ 0 then some (signed negative (mantissa * twoTo exponent.toNat))
    else
      let unit := twoTo (-exponent).toNat
      if mantissa % unit = 0 then some (signed negative (mantissa / unit)) else none
  | _ => none

def negated (x : Binary64) : Binary64 :=
  ⟨UInt64.ofNat ((x.bits.toNat + twoTo 63) % twoTo 64)⟩

def isFinite (x : Binary64) : Bool := x.value matches .finite ..

end Binary64

end ApiReview
