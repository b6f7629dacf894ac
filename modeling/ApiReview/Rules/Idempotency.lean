import ApiReview.Rules.ListMethods

/-!
The rule on keys that let clients repeat requests safely.
-/

set_option autoImplicit false

namespace ApiReview.Rules

open ApiReview.Text

/-- Names of headers that carry such a key, in lower case. -/
def idempotencyHeaders : List String :=
  ["idempotency-key", "idempotency_key", "x-idempotency-key"]

def idempotencyParameter : Node :=
  optionalParameter "Idempotency-Key" "header" textSchema "Unique key for idempotent requests"

def hasIdempotencyHeader (operation : Operation) : Bool :=
  operation.parameters.any fun parameter =>
    parameter.location.same (.str "header") && idempotencyHeaders.contains (lower parameter.name)

/-- Reports creating operations without the header. Custom methods and searches create nothing. -/
def lookForIdempotencyKey (context : RuleContext) (operation : Operation) : Report :=
  if hasChar operation.path ':' || Text.contains operation.path "search"
      || hasIdempotencyHeader operation then .ok []
  else
    missingParameters context operation "POST endpoint missing Idempotency-Key header"
      "Add optional Idempotency-Key header parameter for safe retries" [idempotencyParameter]

/-- Creating accepts an idempotency key. -/
def idempotencyKey : Rule where
  id := "aip155/idempotency-key"
  name := "POST Supports Idempotency Key"
  severity := .suggestion
  description :=
    "POST endpoints should accept an Idempotency-Key header so clients can retry safely"
  aip? := some "AIP-155"
  methods? := some ["POST"]
  check := .operation lookForIdempotencyKey

end ApiReview.Rules
