import ApiReview.Fix.Builder
import ApiReview.Rule.Basic

/-!
Rules on errors: a shared schema for them, documented error responses, and standard codes.
-/

set_option autoImplicit false

namespace ApiReview.Rules

open ApiReview.Text

/-- Standard error codes, those of the client first. -/
def standardErrorCodes : List String :=
  ["400", "401", "403", "404", "405", "409", "412", "422", "429",
   "500", "501", "502", "503", "504"]

def errorSchemaName : String := "Error"

def describedSchema (type description : String) : Node :=
  Node.ofFields [("type", .str type), ("description", .str description)]

def errorSchema : Node :=
  Node.ofFields
    [("type", .str "object"),
     ("required", .list [.str "error"]),
     ("properties", Node.ofFields
       [("error", Node.ofFields
         [("type", .str "object"),
          ("required", .list [.str "code", .str "message"]),
          ("properties", Node.ofFields
            [("code", describedSchema "string" "Error code"),
             ("message", describedSchema "string" "Human-readable error message"),
             ("details", describedSchema "array" "Additional error details"),
             ("request_id", describedSchema "string" "Request identifier for debugging")])])])]

/-- The names of shared schemas for errors. Names of schemas have to be texts. -/
def errorSchemaNames (facts : ReviewFacts) : Except Fault (List String) := do
  let names ← (sharedSchemas facts.spec).mapM fun (key, _) =>
    match key with
    | .str name => .ok name
    | _ => .error .notAnObject
  .ok (names.filter fun name => Text.contains (lower name) "error")

def lookForErrorSchema (context : RuleContext) : Report := do
  let names ← errorSchemaNames context.facts
  if !names.isEmpty then .ok []
  else
    .ok [context.finding "components/schemas" "No error schema defined"
      { suggestion? := some "Define an Error schema with code, message, and details fields"
        address? := some Address.ofSchemas
        context? := some (Members.ofFields [("suggestedSchema", errorSchema)])
        fix? := some (Fix.addSchema errorSchemaName errorSchema) }]

/-- There is a schema for errors. -/
def schemaDefined : Rule where
  id := "aip193/schema-defined"
  name := "Error Schema Defined"
  severity := .warning
  description := "The API should define a structured error schema"
  aip? := some "AIP-193"
  check := .spec lookForErrorSchema

def isErrorCode (code : String) : Bool := startsWith code "4" || startsWith code "5"

/-- The suggested response, which refers to a shared error schema. -/
def errorResponse (schemaName : String) : Node :=
  Node.ofFields
    [("description", .str "Error response"),
     ("content", Node.ofFields
       [("application/json", Node.ofFields
         [("schema", Node.ofFields
           [("$ref", .str ("#/components/schemas/" ++ schemaName))])])])]

/-- Reports operations without error responses. The suggested response refers to the error schema
that the document has, or to the one that is suggested for it. -/
def lookForErrorResponses (context : RuleContext) (operation : Operation) : Report := do
  let codes ← operation.responseCodes
  if codes.contains "default" || codes.any isErrorCode then .ok []
  else
    let names ← errorSchemaNames context.facts
    -- Without one in the document, the name is that of the schema which another rule proposes.
    let response := errorResponse (names.headD errorSchemaName)
    .ok [context.finding operation.location "No error responses documented"
      { suggestion? := some "Add 4xx/5xx responses or a default error response"
        address? := some (Address.ofResponses operation.path operation.method)
        fix? := some (Fix.addResponse operation.path operation.method "default" response) }]

/-- Error responses are documented. -/
def responsesDocumented : Rule where
  id := "aip193/responses-documented"
  name := "Error Responses Documented"
  severity := .suggestion
  description := "Operations should document their error responses"
  aip? := some "AIP-193"
  check := .operation lookForErrorResponses

/-- Reports error codes that are not standard. -/
def lookForOddCodes (context : RuleContext) (operation : Operation) : Report := do
  let codes ← operation.responseCodes
  let odd := codes.filter fun code =>
    code != "default" && isErrorCode code && !standardErrorCodes.contains code
  .ok (odd.map fun code =>
    context.finding operation.location ("Non-standard error code " ++ code)
      { suggestion? := some ("Use standard codes: 400, 401, 403, 404, 409, 422, 429 (client) "
          ++ "or 500, 503 (server)")
        address? := some (Address.ofResponses operation.path operation.method)
        context? := some (Members.ofFields
          [("code", .str code), ("standardCodes", .list (standardErrorCodes.map .str))]) })

/-- Error codes are standard. -/
def standardCodes : Rule where
  id := "aip193/standard-codes"
  name := "Standard Error Codes"
  severity := .suggestion
  description := "Use standard HTTP error status codes"
  aip? := some "AIP-193"
  check := .operation lookForOddCodes

end ApiReview.Rules
