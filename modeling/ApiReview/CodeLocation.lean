import ApiReview.Finding
import ApiReview.Spec.Operation

/-!
Correlation of findings with source code. Findings are narrowed by severity and grouped by the
operation they are about; a locator is asked once for each group, and its locations are attached to
every finding of the group.
-/

set_option autoImplicit false

namespace ApiReview

open ApiReview.Text

/-- How far down the severities a correlation goes. -/
inductive CorrelationLevel
  | minimal
  | moderate
  | thorough
  deriving DecidableEq, Repr

namespace CorrelationLevel

def all : List CorrelationLevel := [.minimal, .moderate, .thorough]

def name : CorrelationLevel → String
  | .minimal => "minimal"
  | .moderate => "moderate"
  | .thorough => "thorough"

def ofName? (name : String) : Option CorrelationLevel := all.find? fun level => level.name == name

/-- The least grave severity that a level includes. -/
def threshold : CorrelationLevel → Severity
  | .minimal => .error
  | .moderate => .warning
  | .thorough => .suggestion

end CorrelationLevel

/-- What a piece of source code does for an operation. -/
inductive CodeRole
  | controller
  | handler
  | route
  | schema
  | transferObject
  | service
  | decorator
  deriving DecidableEq, Repr

namespace CodeRole

def all : List CodeRole :=
  [.controller, .handler, .route, .schema, .transferObject, .service, .decorator]

def name : CodeRole → String
  | .controller => "controller"
  | .handler => "handler"
  | .route => "route"
  | .schema => "schema"
  | .transferObject => "dto"
  | .service => "service"
  | .decorator => "decorator"

def ofName? (name : String) : Option CodeRole := all.find? fun role => role.name == name

end CodeRole

/-- A place in source code. -/
structure CodeLocation where
  file : String
  line? : Option Int
  role : CodeRole
  /-- How sure the locator is, from zero to one. -/
  confidence : Binary64

namespace CodeLocation

/-- The record of a location, with null for an absent line. -/
def toNode (location : CodeLocation) : Node :=
  Node.ofFields
    [("file", .str location.file), ("line", (location.line?.map Node.int).getD .null),
     ("type", .str location.role.name), ("confidence", .float location.confidence)]

/-- The record of a location inside the record of a finding, without an absent line. -/
def toPresentNode (location : CodeLocation) : Node :=
  presentFields
    [("file", some (.str location.file)), ("line", location.line?.map .int),
     ("type", some (.str location.role.name)), ("confidence", some (.float location.confidence))]

end CodeLocation

/-- A finding and the places in source code that it is about. -/
structure LocatedFinding where
  finding : Finding
  locations : List CodeLocation

def LocatedFinding.toNode (located : LocatedFinding) : Node :=
  presentFields (located.finding.fields ++
    [("codeLocations", some (.list (located.locations.map CodeLocation.toPresentNode)))])

/-- The operation that a finding is about. -/
structure OperationKey where
  method : String
  path : String
  deriving DecidableEq, Repr

def filterBySeverity (findings : List Finding) (threshold : Severity) : List Finding :=
  findings.filter fun finding => finding.severity.rank ≤ threshold.rank

/-- The text behind a method at the front, compared without regard to letter case. -/
def behindMethod? (method : String) (text : List Char) : Option (List Char) :=
  let front := text.take method.length
  if front.map Letter.fold == method.toList then some (text.drop method.length) else none

/-- The path behind a method: what stands on one line behind some blanks. -/
def pathBehind? (text : List Char) : Option (List Char) :=
  let path := text.dropWhile Letter.isBlank
  if !text.head?.any Letter.isBlank || path.isEmpty || path.contains '\n' then none else some path

namespace Finding

/-- The operation that a finding is about; a finding about a whole path counts as one about the
method `GET`. -/
def operationKey (finding : Finding) : OperationKey :=
  let text := trimBlanks finding.path.toList
  let found? := httpMethods.findSome? fun method =>
    (behindMethod? method text).bind fun rest =>
      (pathBehind? rest).map fun path =>
        (⟨upper (String.ofList (text.take method.length)), String.ofList path⟩ : OperationKey)
  found?.getD ⟨"GET", finding.path⟩

end Finding

/-- Adds a finding to the group of its operation, which is opened when there is none. -/
def addToGroup (key : OperationKey) (finding : Finding) :
    List (OperationKey × List Finding) → List (OperationKey × List Finding)
  | [] => [(key, [finding])]
  | (known, group) :: rest =>
    if known = key then (known, group ++ [finding]) :: rest
    else (known, group) :: addToGroup key finding rest

/-- Findings by operation, in the order in which the operations came up. -/
def groupByOperation (findings : List Finding) : List (OperationKey × List Finding) :=
  findings.foldl (fun groups finding => addToGroup finding.operationKey finding groups) []

/-- Attaches to the findings of a level the locations that a locator gives for their operations.
The locator is asked once for each operation. What asking does besides is the locator's own: it
may fail, which ends the correlation, or take notes. -/
def correlate {Asking : Type → Type} [Monad Asking] (findings : List Finding)
    (locate : OperationKey → List Finding → Asking (List CodeLocation))
    (level : CorrelationLevel) : Asking (List LocatedFinding) := do
  let selected := filterBySeverity findings level.threshold
  let located ← (groupByOperation selected).mapM fun (key, group) => do
    return (key, ← locate key group)
  return selected.map fun finding =>
    ⟨finding, (located.lookup finding.operationKey).getD []⟩

end ApiReview
