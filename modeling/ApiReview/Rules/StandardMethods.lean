import ApiReview.Fix.Builder
import ApiReview.Rule.Basic

/-!
Rules on the standard methods: request bodies, status codes and partial updates.
-/

set_option autoImplicit false

namespace ApiReview.Rules

open ApiReview.Text

/-- Reports a request body where there should be none. -/
def lookForBody (context : RuleContext) (operation : Operation) (message suggestion : String) :
    List Finding :=
  if Members.has operation.definition "requestBody" then
    [context.finding operation.location message
      { suggestion? := some suggestion
        fix? := some (Fix.removeRequestBody operation.path operation.method) }]
  else []

/-- Reading takes no request body. -/
def getNoBody : Rule where
  id := "aip131/get-no-body"
  name := "GET No Request Body"
  severity := .error
  description := "GET requests must not carry a request body"
  aip? := some "AIP-131"
  methods? := some ["GET"]
  check := .operation fun context operation =>
    .ok (lookForBody context operation "GET request has a request body"
      "Move request data to query parameters")

/-- Reports creating operations that respond with 200 and with neither 201 nor 202. Custom methods
create nothing. -/
def lookForCreated (context : RuleContext) (operation : Operation) : Report := do
  if hasChar operation.path ':' then .ok []
  else
    let codes ← operation.responseCodes
    if codes.contains "201" || codes.contains "202" || !codes.contains "200" then .ok []
    else
      .ok [context.finding operation.location
        "POST returns 200. Consider 201 (Created) for sync or 202 (Accepted) for async."
        { suggestion? :=
            some "Use 201 when the resource is created immediately, 202 for async creation"
          context? := some (Members.ofFields [("responseCodes", .list (codes.map .str))])
          fix? := some (Fix.changeStatusCode operation.path operation.method "200" "201") }]

/-- Creating responds with a code of its own. -/
def postReturnsCreated : Rule where
  id := "aip133/post-returns-201"
  name := "POST Returns 201 or 202"
  severity := .suggestion
  description :=
    "Create methods should return 201 Created, or 202 Accepted when creation is asynchronous"
  aip? := some "AIP-133"
  methods? := some ["POST"]
  check := .operation lookForCreated

/-- A partial update modelled on a full one: with its request body and responses, and with a field
mask. -/
def patchTemplate (put : Members) : Node :=
  let mask := Node.ofFields
    [("name", .str "update_mask"), ("in", .str "query"), ("required", .bool false),
     ("schema", Node.ofFields [("type", .str "string")]),
     ("description", .str "Field mask specifying which fields to update")]
  let taken := ["requestBody", "responses"].filterMap fun name =>
    (Members.get? put name).map fun value => (name, value)
  Node.ofFields
    ([("summary", .str "Partially update resource"),
      ("description", .str "Update resource fields using field mask (AIP-134)"),
      ("parameters", .list [mask])] ++ taken)

def proposedPatch? (path : String) (pathItem : Node) : Except Fault (Option Fix) :=
  match pathItem with
  | .object members =>
    .ok <| ((Members.get? members "put").bind Node.members?).map fun put =>
      Fix.addOperation path "patch" (patchTemplate put) (some "put")
  | _ => .error .wrongKind

/-- Reports resources that can be replaced but not updated in part. Collections are not updated. -/
def lookForPatch (context : RuleContext) (path : String) (pathItem : Node) : Report := do
  if !Path.hasPlaceholder path then .ok []
  -- Method keys are matched as they are written here, in lower case.
  else if !(← pathItem.mentions "put") then .ok []
  else if ← pathItem.mentions "patch" then .ok []
  else
    let fix? ←
      if context.facts.settings.proposePatchOperation then proposedPatch? path pathItem
      else .ok none
    .ok
      [context.finding ("PUT " ++ path)
        "Using PUT without PATCH. Consider adding PATCH for partial updates."
        { suggestion? := some "Add PATCH endpoint with field mask support for partial updates"
          address? := some (Address.ofOperation path "put")
          fix? := fix? }]

/-- Resources can be updated in part. -/
def patchOverPut : Rule where
  id := "aip134/patch-over-put"
  name := "PATCH for Partial Updates"
  severity := .suggestion
  description := "Resources updated with PUT should also offer PATCH with a field mask"
  aip? := some "AIP-134"
  check := .path lookForPatch

def deletionCodes : List String := ["200", "202", "204"]

/-- Reports what keeps a deletion from being idempotent, and unusual success codes. -/
def lookForIdempotentDelete (context : RuleContext) (operation : Operation) : Report := do
  let body := lookForBody context operation "DELETE should not have a request body"
    "Move any required data to path or query parameters"
  let codes ← operation.responseCodes
  let responses := Address.ofResponses operation.path operation.method
  let created :=
    if codes.contains "201" then
      [context.finding operation.location
        "DELETE returns 201 Created, which implies non-idempotent behavior"
        { suggestion? := some "Use 200 OK, 204 No Content, or 202 Accepted instead"
          address? := some responses }]
    else []
  let success := codes.filter fun code => startsWith code "2" && code != "201"
  let unusual :=
    if success.isEmpty || success.any deletionCodes.contains then []
    else
      [context.finding operation.location
        ("DELETE uses unusual success code(s): " ++ String.intercalate ", " success)
        { suggestion? := some "Use 200 OK (with body), 204 No Content, or 202 Accepted"
          address? := some responses
          context? := some (Members.ofFields [("responseCodes", .list (success.map .str))]) }]
  .ok (body ++ created ++ unusual)

/-- Deleting is idempotent. -/
def deleteIdempotent : Rule where
  id := "aip135/delete-idempotent"
  name := "DELETE Is Idempotent"
  severity := .warning
  description := "DELETE should be idempotent: no request body and no 201 Created"
  aip? := some "AIP-135"
  methods? := some ["DELETE"]
  check := .operation lookForIdempotentDelete

end ApiReview.Rules
