import ApiReview.Path.Singleton
import ApiReview.Rule.Guideline
import ApiReview.Settings
import ApiReview.Spec.Response

/-!
Rules and what they are shown. A rule looks at elements of one kind, such as operations or shared
schemas, and reports findings about each; a rule that fails reports nothing about that element.
-/

set_option autoImplicit false

namespace ApiReview

open ApiReview.Text

/-- The kinds of elements that rules look at. -/
inductive RuleKind
  | spec
  | path
  | operation
  | parameter
  | schema
  | property
  deriving DecidableEq, Repr

namespace RuleKind

/-- All kinds, in the order in which a review visits them. -/
def all : List RuleKind := [.spec, .path, .operation, .parameter, .schema, .property]

def name : RuleKind → String
  | .spec => "spec"
  | .path => "path"
  | .operation => "operation"
  | .parameter => "parameter"
  | .schema => "schema"
  | .property => "property"

def ofName? (name : String) : Option RuleKind := all.find? fun kind => kind.name == name

end RuleKind

/-- What a rule says of itself. -/
structure RuleHeader where
  id : String
  name : String
  severity : Severity
  description : String
  aip? : Option String := none
  /-- The category, where it is not that of the guideline. -/
  ownCategory? : Option Category := none
  /-- The methods it looks at, in upper case; all when absent. -/
  methods? : Option (List String) := none
  /-- The parameter locations it looks at; all when absent. -/
  locations? : Option (List String) := none

namespace RuleHeader

/-- The category that findings of the rule belong to, if the guideline's number has a value. -/
def statedCategory (header : RuleHeader) : Except Fault Category :=
  match header.ownCategory? with
  | some category => .ok category
  | none => Guideline.categoryOf header.aip?

def category (header : RuleHeader) : Category := header.statedCategory.toOption.getD .naming

/-- The number of the guideline in front of the rule's id, if it has a value. -/
def guideline (header : RuleHeader) : Except Fault (Option Nat) :=
  Guideline.number? ((splitOn '/' header.id).headD "")

def coversMethod (header : RuleHeader) (method : String) : Bool :=
  header.methods?.all fun methods => methods.contains (upper method)

def coversLocation (header : RuleHeader) (location : Node) : Bool :=
  header.locations?.all fun locations => location.text?.any locations.contains

end RuleHeader

/-- What is derived from a document once for a whole review. -/
structure ReviewFacts where
  spec : Members
  settings : Settings
  vocabulary : Vocabulary
  singletons : List String
  operations : List Operation

namespace ReviewFacts

def document (facts : ReviewFacts) : Node := .object facts.spec

/-- Derives the facts. Singletons are inferred before the operations are read. -/
def ofSpec (spec : Node) (settings : Settings) (vocabulary : Vocabulary) :
    Except Fault ReviewFacts := do
  let singletons ← spec.singletons
  let operations ← operationsOf spec
  .ok ⟨← spec.asObject, settings, vocabulary, singletons, operations⟩

/-- Whether a path lists a collection, under the endpoints of the settings. -/
def isCollection (facts : ReviewFacts) (path : String) : Bool :=
  Path.isCollection facts.vocabulary facts.settings.singletonEndpoints path

def operationsFor (facts : ReviewFacts) (path : String) : List Operation :=
  facts.operations.filter fun operation => operation.path == path

end ReviewFacts

/-- What a rule sees beside its element: the facts of the review and what it says of itself. -/
structure RuleContext where
  facts : ReviewFacts
  header : RuleHeader

/-- The parts of a finding that a rule may leave out. -/
structure Details where
  suggestion? : Option String := none
  address? : Option String := none
  context? : Option Members := none
  fix? : Option Fix := none

/-- A finding stamped with the rule's id, severity, category and guideline. A finding without an
address of its own has that of its fix. -/
def RuleContext.finding (context : RuleContext) (path message : String) (details : Details) :
    Finding where
  ruleId := context.header.id
  severity := context.header.severity
  category := context.header.category
  path := path
  message := message
  aip? := context.header.aip?
  suggestion? := details.suggestion?
  address? := (details.address?.filter fun address => !address.isEmpty).or
    (details.fix?.map (·.address))
  context? := details.context?
  fix? := details.fix?

/-- What a look at an element reports, unless it fails. -/
abbrev Report := Except Fault (List Finding)

/-- The work of a rule, by the kind of element that it looks at. -/
inductive Check
  | spec (look : RuleContext → Report)
  | path (look : RuleContext → String → Node → Report)
  | operation (look : RuleContext → Operation → Report)
  | parameter (look : RuleContext → Operation → Parameter → Report)
  | schema (look : RuleContext → String → Node → Report)
  | property (look : RuleContext → String → String → Node → Report)

def Check.kind : Check → RuleKind
  | .spec _ => .spec
  | .path _ => .path
  | .operation _ => .operation
  | .parameter _ => .parameter
  | .schema _ => .schema
  | .property _ => .property

/-- A rule of interface design. -/
structure Rule extends RuleHeader where
  check : Check

def Rule.kind (rule : Rule) : RuleKind := rule.check.kind

/-- An element that rules look at. -/
inductive Element
  | spec
  | path (path : String) (item : Node)
  | operation (operation : Operation)
  | parameter (operation : Operation) (parameter : Parameter)
  | schema (name : String) (schema : Node)
  | property (schemaName name : String) (property : Node)

namespace Element

def kind : Element → RuleKind
  | .spec => .spec
  | .path .. => .path
  | .operation _ => .operation
  | .parameter .. => .parameter
  | .schema .. => .schema
  | .property .. => .property

def location : Element → String
  | .spec => "spec"
  | .path text _ => text
  | .operation entry => entry.location
  | .parameter entry declared => entry.location ++ " " ++ declared.name
  | .schema name _ => name
  | .property owner name _ => owner ++ "." ++ name

end Element

namespace Rule

def wrongKindMessage (rule : Rule) (asked : RuleKind) : String :=
  rule.id ++ " is a " ++ rule.kind.name ++ " rule; check_" ++ asked.name ++ " is not implemented"

/-- What a rule reports about an element, in the light of some facts. -/
def look (rule : Rule) (facts : ReviewFacts) (element : Element) : Report :=
  let context : RuleContext := ⟨facts, rule.toRuleHeader⟩
  match rule.check, element with
  | .spec check, .spec => check context
  | .path check, .path path item => check context path item
  | .operation check, .operation operation => check context operation
  | .parameter check, .parameter operation parameter => check context operation parameter
  | .schema check, .schema name schema => check context name schema
  | .property check, .property schemaName name property => check context schemaName name property
  | _, element =>
    .error (.declared Fault.wrongRuleKindName (rule.wrongKindMessage element.kind))

def covers (rule : Rule) : Element → Bool
  | .operation operation => rule.coversMethod operation.method
  | .parameter operation parameter =>
    rule.coversMethod operation.method && rule.coversLocation parameter.location
  | _ => true

end Rule

end ApiReview
