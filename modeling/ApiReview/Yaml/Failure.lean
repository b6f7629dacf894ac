import ApiReview.Fault

/-!
Why a document cannot be read.
-/

set_option autoImplicit false

namespace ApiReview.Yaml

/-- Why a document cannot be read. -/
inductive Failure
  /-- It does not keep the rules of the format. -/
  | malformed
  /-- A scalar has no value although it is well formed. -/
  | fault (fault : Fault)
  deriving DecidableEq, Repr

end ApiReview.Yaml
