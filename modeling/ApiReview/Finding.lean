import ApiReview.Fix.Basic

/-!
Findings of a review and their summary. Findings are never changed once a rule made them; records
of them leave out what is absent.
-/

set_option autoImplicit false

namespace ApiReview

/-- How grave a finding is. -/
inductive Severity
  | error
  | warning
  | suggestion
  deriving DecidableEq, Repr

namespace Severity

/-- All severities, the gravest first. -/
def all : List Severity := [.error, .warning, .suggestion]

def name : Severity → String
  | .error => "error"
  | .warning => "warning"
  | .suggestion => "suggestion"

def ofName? (name : String) : Option Severity := all.find? fun severity => severity.name == name

/-- The position among the severities, from zero for the gravest. -/
def rank : Severity → Nat
  | .error => 0
  | .warning => 1
  | .suggestion => 2

end Severity

/-- The area of interface design that a rule belongs to. -/
inductive Category
  | naming
  | standardMethods
  | errors
  | pagination
  | filtering
  | longRunning
  | idempotency
  | versioning
  | security
  deriving DecidableEq, Repr

namespace Category

def all : List Category :=
  [.naming, .standardMethods, .errors, .pagination, .filtering, .longRunning, .idempotency,
   .versioning, .security]

def name : Category → String
  | .naming => "naming"
  | .standardMethods => "standard-methods"
  | .errors => "errors"
  | .pagination => "pagination"
  | .filtering => "filtering"
  | .longRunning => "lro"
  | .idempotency => "idempotency"
  | .versioning => "versioning"
  | .security => "security"

def ofName? (name : String) : Option Category := all.find? fun category => category.name == name

end Category

/-- A violation of a rule. -/
structure Finding where
  ruleId : String
  severity : Severity
  category : Category
  /-- Where it is: a path, an operation, or another place in words. -/
  path : String
  message : String
  aip? : Option String := none
  suggestion? : Option String := none
  address? : Option String := none
  context? : Option Members := none
  fix? : Option Fix := none

def Finding.fields (finding : Finding) : List (String × Option Node) :=
  [("ruleId", some (.str finding.ruleId)), ("severity", some (.str finding.severity.name)),
   ("category", some (.str finding.category.name)), ("path", some (.str finding.path)),
   ("message", some (.str finding.message)), ("aip", finding.aip?.map .str),
   ("suggestion", finding.suggestion?.map .str), ("jsonPath", finding.address?.map .str),
   ("context", finding.context?.map .object), ("fix", finding.fix?.map Fix.toNode)]

def Finding.toNode (finding : Finding) : Node := presentFields finding.fields

/-- How many findings there are of each severity and category. -/
structure Summary where
  errors : Int := 0
  warnings : Int := 0
  suggestions : Int := 0
  /-- Counts per category name, in the order in which the categories came up. -/
  byCategory : List (String × Int) := []

def Summary.toNode (summary : Summary) : Node :=
  Node.ofFields
    [("errors", .int summary.errors), ("warnings", .int summary.warnings),
     ("suggestions", .int summary.suggestions),
     ("byCategory", Node.ofFields (summary.byCategory.map fun (name, count) =>
       (name, .int count)))]

def countOne (name : String) : List (String × Int) → List (String × Int)
  | [] => [(name, 1)]
  | (known, count) :: rest =>
    if known = name then (known, count + 1) :: rest else (known, count) :: countOne name rest

def countSeverity (findings : List Finding) (severity : Severity) : Int :=
  Int.ofNat (findings.countP fun finding => finding.severity = severity)

def summarize (findings : List Finding) : Summary where
  errors := countSeverity findings .error
  warnings := countSeverity findings .warning
  suggestions := countSeverity findings .suggestion
  byCategory := findings.foldl (fun counts finding => countOne finding.category.name counts) []

/-- What a review was made with. -/
structure ReviewMetadata where
  reviewerVersion : String
  rulesApplied : Int

def ReviewMetadata.toNode (metadata : ReviewMetadata) : Node :=
  Node.ofFields
    [("reviewerVersion", .str metadata.reviewerVersion),
     ("rulesApplied", .int metadata.rulesApplied)]

/-- All findings of one review of one document. -/
structure ReviewResult where
  specPath? : Option String
  specTitle? : Option String
  specVersion? : Option String
  findings : List Finding
  summary : Summary
  metadata : ReviewMetadata

namespace ReviewResult

def hasErrors (result : ReviewResult) : Bool := result.summary.errors > 0

def byRule (result : ReviewResult) (ruleId : String) : List Finding :=
  result.findings.filter fun finding => finding.ruleId == ruleId

def toNode (result : ReviewResult) : Node :=
  presentFields
    [("specPath", result.specPath?.map .str), ("specTitle", result.specTitle?.map .str),
     ("specVersion", result.specVersion?.map .str),
     ("findings", some (.list (result.findings.map Finding.toNode))),
     ("summary", some result.summary.toNode), ("metadata", some result.metadata.toNode)]

end ReviewResult

end ApiReview
