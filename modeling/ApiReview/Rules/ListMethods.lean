import ApiReview.Fix.Builder
import ApiReview.Rule.Basic

/-!
Rules on operations that list a collection: filtering, ordering and pagination.
-/

set_option autoImplicit false

namespace ApiReview.Rules

open ApiReview.Text

def filterNames : List String := ["filter", "q", "query", "search"]

/-- Names of query parameters that never narrow a result. -/
def neutralNames : List String := ["page_size", "page_token", "limit", "offset", "order_by"]

def orderNames : List String := ["order_by", "orderBy", "sort", "sort_by", "sortBy", "order"]

def pageSizeNames : List String := ["page_size", "pageSize", "limit"]

def pageTokenNames : List String := ["page_token", "pageToken", "cursor", "offset"]

/-- Names of parameters that show that a list is paginated with tokens. -/
def paginationNames : List String := pageSizeNames ++ ["page_token", "pageToken", "cursor"]

def nextTokenNames : List String :=
  ["next_page_token", "nextPageToken", "next_cursor", "nextCursor", "cursor"]

def maximumPageSize : Int := 100

def optionalParameter (name location : String) (schema : Node) (description : String) : Node :=
  Node.ofFields
    [("name", .str name), ("in", .str location), ("required", .bool false), ("schema", schema),
     ("description", .str description)]

def textSchema : Node := Node.ofFields [("type", .str "string")]

def filterParameter : Node :=
  optionalParameter "filter" "query" textSchema
    "Filter expression (AIP-160), e.g. \"status = ACTIVE\""

def orderParameter : Node :=
  optionalParameter "order_by" "query" textSchema "Sort order (e.g., \"created_at desc\")"

def pageParameters : List Node :=
  [optionalParameter "page_size" "query"
    (Node.ofFields
      [("type", .str "integer"), ("minimum", .int 1), ("maximum", .int maximumPageSize)])
    "Maximum number of results to return",
   optionalParameter "page_token" "query" textSchema
    "Token from a previous response to fetch the next page"]

def nextTokenSchema : Node := Node.ofFields [("type", .str "string"), ("nullable", .bool true)]

/-- A finding about an operation, with parameters to add. -/
def missingParameters (context : RuleContext) (operation : Operation) (message suggestion : String)
    (parameters : List Node) : Report := do
  let fix ← Fix.addParameters operation.path operation.method parameters
  .ok [context.finding operation.location message
    { suggestion? := some suggestion, fix? := some fix }]

/-- Whether an operation has a parameter that filters: a general one, or a specific one for a
field. -/
def hasFilter (operation : Operation) : Bool :=
  let query := operation.parameters.filter fun parameter =>
    parameter.location.same (.str "query")
  (query.any fun parameter => filterNames.contains (lower parameter.name))
    || query.any fun parameter => !neutralNames.contains parameter.name

def lookForFiltering (context : RuleContext) (operation : Operation) : Report :=
  if !context.facts.isCollection operation.path || hasFilter operation then .ok []
  else
    missingParameters context operation "List endpoint has no filter parameters"
      "Add filter parameter or field-specific filters (e.g., status, created_after)"
      [filterParameter]

/-- Lists can be filtered. -/
def hasFiltering : Rule where
  id := "aip132/has-filtering"
  name := "List Endpoints Document Filtering"
  severity := .suggestion
  description := "List endpoints should accept a filter or field-specific filter parameters"
  aip? := some "AIP-160"
  methods? := some ["GET"]
  check := .operation lookForFiltering

def lookForOrdering (context : RuleContext) (operation : Operation) : Report :=
  if !context.facts.isCollection operation.path || operation.hasQueryParameter orderNames then
    .ok []
  else
    missingParameters context operation "List endpoint missing ordering parameter"
      "Add order_by query parameter (e.g., \"created_at desc, name asc\")" [orderParameter]

/-- Lists can be ordered. -/
def hasOrdering : Rule where
  id := "aip132/has-ordering"
  name := "List Endpoints Support Ordering"
  severity := .suggestion
  description := "List endpoints should accept an order_by parameter"
  aip? := some "AIP-132"
  ownCategory? := some .filtering
  methods? := some ["GET"]
  check := .operation lookForOrdering

def lookForPagination (context : RuleContext) (operation : Operation) : Report :=
  if !context.facts.isCollection operation.path || operation.hasQueryParameter pageSizeNames
      || operation.hasQueryParameter pageTokenNames then .ok []
  else
    missingParameters context operation "List endpoint has no pagination parameters"
      "Add page_size and page_token query parameters" pageParameters

/-- Lists are paginated. -/
def listPaginated : Rule where
  id := "aip158/list-paginated"
  name := "List Endpoints Have Pagination"
  severity := .warning
  description := "List endpoints should accept page_size and page_token"
  aip? := some "AIP-158"
  methods? := some ["GET"]
  check := .operation lookForPagination

/-- The address of a parameter's schema: that of its target if it is a reference. -/
def schemaAddress (parameter : Parameter) (schema : Members) : Except Fault (Option String) :=
  match Members.get? schema "$ref" with
  | some reference => referenceAddress? reference
  | none => .ok (some (parameter.address ++ ".schema"))

/-- Reports a page size parameter whose schema has no maximum. -/
def lookForMaximum (context : RuleContext) (operation : Operation) (parameter : Parameter) :
    Report := do
  match parameter.schema? with
  | none => .ok []
  | some declared =>
    if !pageSizeNames.contains parameter.name then .ok []
    else
      let document := context.facts.document
      let schema? := (← resolve? document referenceLimit (.object declared)).bind Node.members?
      match schema? with
      | none => .ok []
      | some schema =>
        if Members.has schema "maximum" then .ok []
        else
          -- A shared schema is bounded where it is defined, not where it is referred to.
          match ← schemaAddress parameter declared with
          | none => .ok []
          | some address =>
            let fix := Fix.setSchemaConstraint address "maximum" (.int maximumPageSize)
              (Members.ofFields [("parameter", .str parameter.name)])
            .ok [context.finding operation.location
              ("Page size parameter '" ++ parameter.name ++ "' has no maximum")
              { suggestion? := some ("Add maximum: " ++ toString maximumPageSize ++ " to the "
                  ++ parameter.name ++ " schema")
                context? := some (Members.ofFields
                  [("parameter", .str parameter.name),
                   ("suggestedMaximum", .int maximumPageSize)])
                fix? := some fix }]

/-- Page sizes are bounded. -/
def maxPageSize : Rule where
  id := "aip158/max-page-size"
  name := "Pagination Has Maximum"
  severity := .suggestion
  description := "Page size parameters should declare a maximum"
  aip? := some "AIP-158"
  methods? := some ["GET"]
  locations? := some ["query"]
  check := .parameter lookForMaximum

def mentionsAny (properties : Node) : List String → Except Fault Bool
  | [] => .ok false
  | name :: rest => do
    if ← properties.mentions name then .ok true else mentionsAny properties rest

/-- Reports paginated responses that do not say how to continue. -/
def lookForNextToken (context : RuleContext) (operation : Operation) : Report := do
  if !context.facts.isCollection operation.path
      || !operation.hasQueryParameter paginationNames then .ok []
  else
    match ← responseSchema? context.facts.document operation "200" with
    | none => .ok []
    | some (schema, address) =>
      if ← mentionsAny (Node.optional (Members.get? schema "properties")) nextTokenNames then
        .ok []
      else
        -- A list of items has no place for the field, so the finding comes without a fix.
        let isObject := (Members.get? schema "type").any (·.same (.str "object"))
          || Members.has schema "properties"
        let suggested := Node.ofFields [("next_page_token", nextTokenSchema)]
        .ok [context.finding operation.location "Paginated response missing next_page_token field"
          { suggestion? := some "Add next_page_token (string, nullable) to response schema"
            address? := some address
            context? := some (Members.ofFields [("suggestedField", suggested)])
            fix? :=
              if isObject then
                some (Fix.addSchemaProperty address "next_page_token" nextTokenSchema)
              else none }]

/-- Paginated responses say how to continue. -/
def responseNextToken : Rule where
  id := "aip158/response-next-token"
  name := "Response Has Next Page Token"
  severity := .warning
  description := "Paginated list responses should return next_page_token"
  aip? := some "AIP-158"
  methods? := some ["GET"]
  check := .operation lookForNextToken

end ApiReview.Rules
