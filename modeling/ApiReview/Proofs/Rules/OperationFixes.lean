import ApiReview.Proofs.Fix.Targets
import ApiReview.Proofs.Patch.Atomicity
import ApiReview.Proofs.Patch.Planned
import ApiReview.Proofs.Rules.Findings
import ApiReview.Proofs.Spec.EditedOperation

/-! Fixes of single changes and the rules that look again. A rule on operations
is silent about a location when it reports nothing about the operations there and
does not fail on them. -/

set_option autoImplicit false

namespace ApiReview

open ApiReview.Text

variable {rule : Rule} {settings : Settings} {vocabulary : Vocabulary} {document : Node}
  {found : List Finding} {finding : Finding} {location : String}

/-- A fix of one change that can be made is applied. -/
theorem PatchSession.applyFix_of_apply {session : PatchSession Node} {fix : Fix} {change : Change}
    {after : Node} (single : fix.changes = [change])
    (made : change.apply session.document = .ok after) (ruleId : String) :
    ∃ outcome, outcome.applied = true ∧
      session.applyFix fix ruleId = .ok (⟨after, session.log ++ [outcome]⟩, outcome) := by
  have tried : tryChanges session.document fix.changes = .ok (some after, [⟨change, none⟩]) := by
    rw [single, tryChanges, made]
    rfl
  refine ⟨⟨ruleId, fix.kind, true, [⟨change, none⟩]⟩, rfl, ?_⟩
  rw [PatchSession.applyFix, tried]
  rfl

/-- Every finding about an element is placed at its location. -/
theorem Rule.Reports.path_eq {facts : ReviewFacts} {element : Element}
    (reports : rule.Reports facts element finding)
    (placed : ∀ report, rule.look facts element = .ok report →
      ∀ finding ∈ report, finding.path = element.location) :
    finding.path = element.location := by
  cases reports with
  | looked looked among => exact placed _ looked finding among
  | failed failed shape =>
      rw [shape]
      rfl

/-- The look of a rule on operations. -/
def PlacesFindings (look : RuleContext → Operation → Report) : Prop :=
  ∀ context operation report, look context operation = .ok report →
    ∀ finding ∈ report, finding.path = operation.location

/-- The finding of a rule on operations comes from an operation of the document. -/
theorem Rule.operation_of_mem {look : RuleContext → Operation → Report}
    (check : rule.check = .operation look) (places : PlacesFindings look)
    (reported : rule.findingsOn settings vocabulary document = .ok found)
    (among : finding ∈ found) :
    ∃ facts operation, ReviewFacts.ofSpec document settings vocabulary = .ok facts ∧
      operation ∈ facts.operations ∧ finding.path = operation.location ∧
      rule.coversMethod operation.method = true ∧
      rule.Reports facts (.operation operation) finding := by
  obtain ⟨facts, derived, ran⟩ := Rule.findingsOn_ok reported
  obtain ⟨element, visited, covered, reports⟩ := Rule.mem_run ran among
  have kind : rule.kind = .operation := by rw [Rule.kind, check]; rfl
  rw [kind, ReviewFacts.visits] at visited
  obtain ⟨operation, listed, shape⟩ := List.mem_map.mp visited
  cases shape
  refine ⟨facts, operation, derived, listed, ?_, covered, reports⟩
  refine reports.path_eq fun report looked => ?_
  have looked : look ⟨facts, rule.toRuleHeader⟩ operation = .ok report := by
    simpa only [Rule.look, check] using looked
  exact places _ _ _ looked

/-- Where the look at each operation of a location is silent, the rule reports nothing there. -/
theorem Rule.no_finding_at {look : RuleContext → Operation → Report}
    (check : rule.check = .operation look) (places : PlacesFindings look)
    (reported : rule.findingsOn settings vocabulary document = .ok found)
    (silent : ∀ facts operation, ReviewFacts.ofSpec document settings vocabulary = .ok facts →
      operation ∈ facts.operations → operation.location = location →
      look ⟨facts, rule.toRuleHeader⟩ operation = .ok []) :
    ∀ finding ∈ found, finding.path ≠ location := by
  intro finding among here
  obtain ⟨facts, operation, derived, listed, placed, _, reports⟩ :=
    Rule.operation_of_mem check places reported among
  have quiet := silent facts operation derived listed (placed.symm.trans here)
  have quiet : rule.look facts (.operation operation) = .ok [] := by
    simpa only [Rule.look, check] using quiet
  cases reports with
  | looked looked inside =>
      rw [quiet] at looked
      cases looked
      cases inside
  | failed failed _ =>
      rw [quiet] at failed
      cases failed

/-- The changes of a fix, once made, silence the rule that proposed it: it reports nothing any more
at the location of the finding. -/
def Rule.FixesResolve (rule : Rule) (allowed : Node → Bool) : Prop :=
  ∀ (settings : Settings) (vocabulary : Vocabulary) (before after : Node)
    (found rerun : List Finding) (finding : Finding) (fix : Fix),
    before.isNamed = true → hasDistinctMethods before = true → allowed before = true →
    rule.findingsOn settings vocabulary before = .ok found → finding ∈ found →
    finding.fix? = some fix → Change.applyAll fix.changes before = .ok after →
    rule.findingsOn settings vocabulary after = .ok rerun →
    ∀ other ∈ rerun, other.path ≠ finding.path

/-- A finding with a fix comes from a look at an operation that did not fail. -/
theorem Rule.looked_of_fix {look : RuleContext → Operation → Report} {fix : Fix}
    (check : rule.check = .operation look) (places : PlacesFindings look)
    (reported : rule.findingsOn settings vocabulary document = .ok found)
    (among : finding ∈ found) (carried : finding.fix? = some fix) :
    ∃ facts operation pathKey key report, document = .object facts.spec ∧
      facts.settings = settings ∧
      IsOperation (.object facts.spec) facts.spec pathKey key operation ∧
      finding.path = operation.location ∧ rule.coversMethod operation.method = true ∧
      look ⟨facts, rule.toRuleHeader⟩ operation = .ok report ∧ finding ∈ report := by
  obtain ⟨facts, operation, derived, listed, placed, covered, reports⟩ :=
    Rule.operation_of_mem check places reported among
  obtain ⟨shape, options, read⟩ := ReviewFacts.ofSpec_ok derived
  obtain ⟨pathKey, key, source⟩ := mem_operationsOf read listed
  cases reports with
  | failed failed recorded =>
      rw [recorded] at carried
      cases carried
  | @looked report looked inside =>
      refine ⟨facts, operation, pathKey, key, report, shape, options, source, placed, covered, ?_,
        inside⟩
      simpa only [Rule.look, check] using looked

/-- After a value was grafted below an operation, a rule reports nothing at its location when it is
silent about operations with that value. -/
theorem Rule.no_finding_after_graft {look : RuleContext → Operation → Report} {root : Members}
    {pathKey : Key} {key field : String} {below : List String} {operation : Operation}
    {value held after : Node} {rerun : List Finding} (check : rule.check = .operation look)
    (places : PlacesFindings look)
    (source : IsOperation (.object root) root pathKey key operation)
    (named : (Node.object root).isNamed = true)
    (distinct : hasDistinctMethods (.object root) = true)
    (reached : (Node.object root).at?
      [.name "paths", .name operation.path, .name (lower key)] = some held)
    (edited : after = Node.graft value
      (("paths" :: operation.path :: lower key :: field :: below).map .name) (.object root))
    (again : rule.findingsOn settings vocabulary after = .ok rerun)
    (silent : ∀ (facts : ReviewFacts) (later : Operation) (laterPath : Key) (laterKey : String),
      IsOperation after facts.spec laterPath laterKey later →
      later.definition = Members.put (.str field) (Node.graft value (below.map .name)
        ((Members.get? operation.definition field).getD (.object []))) operation.definition →
      look ⟨facts, rule.toRuleHeader⟩ later = .ok []) :
    ∀ other ∈ rerun, other.path ≠ operation.location := by
  refine Rule.no_finding_at check places again ?_
  intro facts later derived listed sameLocation
  obtain ⟨shape, _, read⟩ := ReviewFacts.ofSpec_ok derived
  obtain ⟨laterPath, laterKey, laterSource⟩ := mem_operationsOf read listed
  rw [← shape] at laterSource
  exact silent facts later laterPath laterKey laterSource
    (definition_of_graft_below source named distinct reached (shape.symm.trans edited) read listed
      sameLocation)

end ApiReview
