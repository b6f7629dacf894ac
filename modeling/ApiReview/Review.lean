import ApiReview.Rules.Standard

/-!
Reviews: running the active rules of a registry over a document. Rules run kind by kind, within a
kind in the order of the registry, and each over the elements of its kind in document order. What
becomes of a look that fails is decided by the settings.
-/

set_option autoImplicit false

namespace ApiReview

def reviewerVersion : String := "2.0.0"

/-- Why a review has no result. -/
inductive ReviewFailure
  /-- The document cannot be walked over, or a rule was asked for what it does not do. -/
  | fault (fault : Fault)
  /-- A rule failed and the settings end the review then. -/
  | rule (ruleId location : String) (cause : Fault)
  /-- The title of the document is not a text. -/
  | titleNotText
  deriving DecidableEq, Repr

/-- The message of a failed rule, where the failure has a text of its own. -/
def ReviewFailure.message? : ReviewFailure → Option String
  | .rule ruleId location cause =>
    cause.text?.map fun text => "Rule " ++ ruleId ++ " failed on " ++ location ++ ": " ++ text
  | _ => none

/-- What reviews: settings, rules, and a vocabulary. -/
structure Reviewer where
  settings : Settings := {}
  /-- The rules to choose from; without any, the built-in ones. -/
  registry : Registry := .standard
  vocabulary : Vocabulary := .standard

/-- An element to visit, or the fault that the walk meets in its place. -/
abbrev Visit := Except Fault Element

/-- The properties of a shared schema, by name. -/
def propertiesOf (schema : Members) : Except Fault (List (String × Node)) := do
  let properties ← (Node.optional (Members.get? schema "properties")).asObject
  .ok (properties.map fun (key, value) => (key.display, value))

/-- The properties of a shared schema that are objects. -/
def propertyVisits (name : String) (schema : Members) : List Visit :=
  match propertiesOf schema with
  | .ok properties =>
    (properties.filter fun (_, value) => value.isObject).map fun (property, value) =>
      .ok (.property name property value)
  | .error fault => [.error fault]

namespace ReviewFacts

/-- The path items of a document, by path. -/
def paths (facts : ReviewFacts) : List (String × Node) :=
  (pathItems facts.spec).map fun (key, value) => (key.display, value)

/-- The shared schemas of a document, by name. -/
def schemas (facts : ReviewFacts) : List (String × Node) :=
  (sharedSchemas facts.spec).map fun (key, value) => (key.display, value)

/-- The elements of a kind, in document order. Path items, schemas and properties that are no
objects are passed over. -/
def visits (facts : ReviewFacts) : RuleKind → List Visit
  | .spec => [.ok .spec]
  | .path =>
    (facts.paths.filter fun (_, item) => item.isObject).map fun (path, item) =>
      .ok (.path path item)
  | .operation => facts.operations.map fun operation => .ok (.operation operation)
  | .parameter =>
    facts.operations.flatMap fun operation =>
      operation.parameters.map fun parameter => .ok (.parameter operation parameter)
  | .schema =>
    (facts.schemas.filter fun (_, schema) => schema.isObject).map fun (name, schema) =>
      .ok (.schema name schema)
  | .property =>
    facts.schemas.flatMap fun (name, schema) =>
      match schema with
      | .object members => propertyVisits name members
      | _ => []

/-- The first of some elements. -/
def first {Entry : Type} : List Entry → Except Fault Entry
  | entry :: _ => .ok entry
  | [] => .error .outOfRange

/-- The properties of a schema that has to have some. -/
def requiredProperties : Node → Except Fault (List (String × Node))
  | .object schema =>
    match Members.get? schema "properties" with
    | none => .error .missingMember
    | some properties => do
      .ok ((← properties.asObject).map fun (key, value) => (key.display, value))
  | _ => .error .wrongKind

/-- The first element of a kind, for trying out a rule: parameters are looked for in the first
operation and properties in the first schema. -/
def firstElement (facts : ReviewFacts) (kind : RuleKind) : Visit := do
  match kind with
  | .spec => .ok .spec
  | .path =>
    let (path, item) ← first facts.paths
    .ok (.path path item)
  | .operation => .ok (.operation (← first facts.operations))
  | .parameter =>
    let operation ← first facts.operations
    .ok (.parameter operation (← first operation.parameters))
  | .schema =>
    let (name, schema) ← first facts.schemas
    .ok (.schema name schema)
  | .property =>
    let (name, schema) ← first facts.schemas
    let (property, value) ← first (← requiredProperties schema)
    .ok (.property name property value)

end ReviewFacts

namespace Rule

def failureFinding (rule : Rule) (location : String) (cause : Fault) : Finding where
  ruleId := rule.id
  severity := .error
  category := rule.category
  aip? := rule.aip?
  path := location
  message :=
    match cause.text? with
    | some text => "Rule failed: " ++ text
    | none => "Rule failed"
  context? := some (Members.ofFields [("exception", .str cause.name)])

/-- The findings of a rule about an element under a policy for failures. A rule asked for what it
does not do ends the review under every policy. -/
def guarded (rule : Rule) (facts : ReviewFacts) (element : Element) :
    Except ReviewFailure (List Finding) :=
  match rule.look facts element with
  | .ok findings => .ok findings
  | .error cause =>
    if cause.isWrongRuleKind then .error (.fault cause)
    else
      match facts.settings.onRuleError with
      | .raise => .error (.rule rule.id element.location cause)
      | .record => .ok [rule.failureFinding element.location cause]
      | .log => .ok []

def visit (rule : Rule) (facts : ReviewFacts) : Visit → Except ReviewFailure (List Finding)
  | .ok element => if rule.covers element then rule.guarded facts element else .ok []
  | .error fault => .error (.fault fault)

/-- The findings of a rule about all elements of its kind that it covers. -/
def run (rule : Rule) (facts : ReviewFacts) : Except ReviewFailure (List Finding) := do
  let findings ← (facts.visits rule.kind).mapM (rule.visit facts)
  .ok findings.flatten

end Rule

/-- A warning of a strict review is an error. -/
def Finding.promoted (finding : Finding) : Finding :=
  if finding.severity = .warning then { finding with severity := .error } else finding

namespace Reviewer

/-- Whether the settings let a rule run. -/
def isActive (settings : Settings) (rule : Rule) : Bool :=
  !settings.skipRules.contains rule.id
    && settings.categories?.all fun categories => categories.contains rule.category

/-- The rules that run, in the order of the registry. -/
def activeRules (reviewer : Reviewer) : List Rule :=
  reviewer.registry.orStandard.all.filter (isActive reviewer.settings)

/-- Rules in the order in which they run. -/
def scheduled (rules : List Rule) : List Rule :=
  RuleKind.all.flatMap fun kind => rules.filter fun rule => rule.kind = kind

/-- The findings of rules over a document, before a strict review promotes them. -/
def findings (facts : ReviewFacts) (rules : List Rule) : Except ReviewFailure (List Finding) := do
  let findings ← (scheduled rules).mapM fun rule => rule.run facts
  .ok findings.flatten

/-- The title of a document, which has to be a text if there is one. -/
def title? (info : Members) : Except ReviewFailure (Option String) :=
  match Members.get? info "title" with
  | none | some .null => .ok none
  | some (.str title) => .ok (some title)
  | some _ => .error .titleNotText

def version? (info : Members) : Option String :=
  ((Members.get? info "version").filter fun version => !version.isNull).map Node.display

/-- Runs every active rule over a document. -/
def review (reviewer : Reviewer) (spec : Node) (specPath? : Option String) :
    Except ReviewFailure ReviewResult := do
  let settings := reviewer.settings
  -- What cannot be derived ends the review before any rule runs, whatever the policy is.
  let facts ← (ReviewFacts.ofSpec spec settings reviewer.vocabulary).mapError .fault
  let rules := reviewer.activeRules
  let found ← findings facts rules
  -- Promoted before they are counted, so that the summary agrees with the findings.
  let found := if settings.strict then found.map Finding.promoted else found
  let info := ((Members.get? facts.spec "info").bind Node.members?).getD []
  .ok {
    specPath?
    specTitle? := ← title? info
    specVersion? := version? info
    findings := found
    summary := summarize found
    metadata := ⟨reviewerVersion, Int.ofNat rules.length⟩ }

end Reviewer

end ApiReview
