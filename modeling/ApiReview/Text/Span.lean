/-!
Spans of code points, the form in which the tables of the Unicode standard are kept.
-/

set_option autoImplicit false

namespace ApiReview.Text

/-- Code points from `first` to `last`, every `step`-th one. -/
structure Span where
  first : Nat
  last : Nat
  step : Nat

/-- A span holds the code points that a walk in its steps meets. -/
def Span.contains (span : Span) (code : Nat) : Bool :=
  span.first ≤ code && code ≤ span.last && (code - span.first) % span.step == 0

/-- A table holds what one of its spans holds. -/
def Span.anyContains (table : List Span) (code : Nat) : Bool :=
  table.any (·.contains code)

/-- Moves every code point of a span by the same distance. -/
structure Shift where
  span : Span
  distance : Int

/-- The image of a code point under the first shift whose span holds it. -/
def Shift.image? (table : List Shift) (code : Nat) : Option Nat :=
  (table.find? (·.span.contains code)).map fun shift => (Int.ofNat code + shift.distance).toNat

end ApiReview.Text
