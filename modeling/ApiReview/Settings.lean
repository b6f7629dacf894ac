import ApiReview.Finding
import ApiReview.Path.Basic

/-!
The options of a review.
-/

set_option autoImplicit false

namespace ApiReview

/-- What becomes of a rule that fails. -/
inductive FailurePolicy
  /-- The failure is passed over. -/
  | log
  /-- The failure is reported as a finding. -/
  | record
  /-- The failure ends the review. -/
  | raise
  deriving DecidableEq, Repr

namespace FailurePolicy

def all : List FailurePolicy := [.log, .record, .raise]

def name : FailurePolicy → String
  | .log => "log"
  | .record => "record"
  | .raise => "raise"

def ofName? (name : String) : Option FailurePolicy := all.find? fun policy => policy.name == name

end FailurePolicy

/-- Options for one review. -/
structure Settings where
  /-- Warnings count as errors. -/
  strict : Bool := false
  /-- Only rules of these categories run; all when absent. -/
  categories? : Option (List Category) := none
  /-- Rules that do not run. -/
  skipRules : List String := []
  onRuleError : FailurePolicy := .log
  /-- Final segments that never denote a collection. -/
  singletonEndpoints : List String := Path.standardSingletonEndpoints
  /-- Findings about a missing `PATCH` come with a template for it. -/
  proposePatchOperation : Bool := false

/-- The record of the options, in which absent ones are null. -/
def Settings.toNode (settings : Settings) : Node :=
  Node.ofFields
    [("strict", .bool settings.strict),
     ("categories",
       match settings.categories? with
       | some categories => .list (categories.map fun category => .str category.name)
       | none => .null),
     ("skip_rules", .list (settings.skipRules.map .str)),
     ("on_rule_error", .str settings.onRuleError.name),
     ("singleton_endpoints", .list ((Text.sortedUnique settings.singletonEndpoints).map .str)),
     ("propose_patch_operation", .bool settings.proposePatchOperation)]

end ApiReview
