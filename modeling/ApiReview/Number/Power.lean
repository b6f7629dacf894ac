/-!
Powers of the two bases in which numbers are read and written.
-/

set_option autoImplicit false

namespace ApiReview

def twoTo (exponent : Nat) : Nat := Nat.pow 2 exponent

def tenTo (exponent : Nat) : Nat := Nat.pow 10 exponent

end ApiReview
