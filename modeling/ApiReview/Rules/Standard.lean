import ApiReview.Rule.Registry
import ApiReview.Rules.Errors
import ApiReview.Rules.Idempotency
import ApiReview.Rules.ListMethods
import ApiReview.Rules.ResourceNames
import ApiReview.Rules.StandardMethods

/-!
The built-in rules.
-/

set_option autoImplicit false

namespace ApiReview

open Rules

def standardGroups : List (Int × List Rule) :=
  [(122, [pluralResources, noVerbs, consistentCasing, nestedOwnership]),
   (131, [getNoBody]),
   (132, [hasFiltering, hasOrdering]),
   (133, [postReturnsCreated]),
   (134, [patchOverPut]),
   (135, [deleteIdempotent]),
   (155, [idempotencyKey]),
   (158, [listPaginated, maxPageSize, responseNextToken]),
   (193, [schemaDefined, responsesDocumented, standardCodes])]

def Registry.standard : Registry := Registry.ofGroups standardGroups

/-- The registry, or that of the built-in rules in place of one without rules. -/
def Registry.orStandard (registry : Registry) : Registry :=
  if registry.size = 0 then .standard else registry

end ApiReview
