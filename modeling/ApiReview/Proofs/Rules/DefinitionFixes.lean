import ApiReview.Proofs.Rules.NextPageToken

/-! Fixes of definitions that references lead to. Their rules follow every reference,
their addresses are found with the first one alone; so such a fix silences its rule
exactly if both mean the same definition. -/

set_option autoImplicit false

namespace ApiReview

open ApiReview.Text Rules

/-- The rules whose fixes edit the definition that they judge. -/
inductive DefinitionRule
  | pageSize
  | nextToken

namespace DefinitionRule

/-- The rule itself. -/
def rule : DefinitionRule → Rule
  | .pageSize => maxPageSize
  | .nextToken => responseNextToken

/-- The members under which a fix sets what the definition lacks. -/
def members : DefinitionRule → List String
  | .pageSize => ["maximum"]
  | .nextToken => ["properties", "next_page_token"]

/-- What a fix sets. -/
def value : DefinitionRule → Node
  | .pageSize => .int maximumPageSize
  | .nextToken => nextTokenSchema

/-- How the rule gets to the definition of a finding. -/
def judges (settings : Settings) (vocabulary : Vocabulary) :
    DefinitionRule → Node → Finding → Course → Prop
  | .pageSize => JudgesPageSize
  | .nextToken => JudgesResponse settings vocabulary

def lacks : DefinitionRule → Node → List Part → Prop
  | .pageSize => LacksMaximum
  | .nextToken => LacksNextToken

theorem judging (definition : DefinitionRule) (settings : Settings) (vocabulary : Vocabulary) :
    JudgesDefinitions definition.rule settings vocabulary definition.members definition.value
      (definition.judges settings vocabulary) definition.lacks := by
  cases definition with
  | pageSize => exact maxPageSize_judges settings vocabulary
  | nextToken => exact responseNextToken_judges settings vocabulary

end DefinitionRule

variable {settings : Settings} {vocabulary : Vocabulary} {found : List Finding}
  {finding : Finding} {fix : Fix} {ruleId : String} {outcome : FixOutcome}

/-- An applied fix sets its member at one place, and its finding comes again exactly if the rule
judges a definition at another place. The document has textual keys, and no path item two keys
equal up to letter case. The fix either hits the definition that is judged, or it leaves alone what
the rule reads on its course. -/
theorem definitionFix_repeated_iff (definition : DefinitionRule) {session after : PatchSession Node}
    (named : session.document.isNamed = true)
    (distinct : hasDistinctMethods session.document = true)
    (reported : definition.rule.findingsOn settings vocabulary session.document = .ok found)
    (among : finding ∈ found) (carried : finding.fix? = some fix)
    (ran : session.applyFix fix ruleId = .ok (after, outcome)) (applied : outcome.applied = true) :
    ∃ change place, fix.changes = [change] ∧
      change.locate session.document = .ok (place ++ definition.members.map .name) ∧
      (∃ course, definition.judges settings vocabulary session.document finding course) ∧
      ∀ course, definition.judges settings vocabulary session.document finding course →
        (place = course.judged ∨
          LeavesAlone session.document (place ++ definition.members.map .name) course) →
        ∀ rerun, definition.rule.findingsOn settings vocabulary after.document = .ok rerun →
          ((∃ other ∈ rerun, other.path = finding.path ∧ other.message = finding.message) ↔
            place ≠ course.judged) :=
  (definition.judging settings vocabulary).repeated_iff named distinct reported among carried
    ((PatchSession.applyFix_ok ran).2.applyAll_of_applied applied)

/-! ## A chain of two references -/

/-- A document whose page size has a schema that refers to one that refers to another. -/
def aliasedPageSize : Node :=
  .object
    [(.str "components", .object [(.str "schemas", .object
      [(.str "A", .object [(.str "$ref", .str "#/components/schemas/B")]),
       (.str "B", .object [(.str "type", .str "integer")])])]),
     (.str "paths", .object [(.str "/users", .object [(.str "get", .object
      [(.str "parameters", .list [.object
        [(.str "in", .str "query"), (.str "name", .str "page_size"),
         (.str "schema", .object [(.str "$ref", .str "#/components/schemas/A")])]])])])])]

def sharedSchemaPlace (name : String) : List Part := ["components", "schemas", name].map .name

def aliasedDeclaration : List Part :=
  [.name "paths", .name "/users", .name "get", .name "parameters", .position (.ofNat 0)]

def aliasedCourse : Course where
  path := "/users"
  key := "get"
  trail := [[.name "paths", .name "/users", .name "get"], aliasedDeclaration,
    aliasedDeclaration ++ [.name "schema"], sharedSchemaPlace "A", sharedSchemaPlace "B"]
  asked := []
  judged := sharedSchemaPlace "B"
  missed := sharedSchemaPlace "B" ++ [.name "maximum"]

theorem judgesPageSize_aliased (placed : finding.path = "GET /users")
    (message : finding.message = maximumMessage "page_size") :
    JudgesPageSize aliasedPageSize finding aliasedCourse := by
  have first : Address.referenceNames? "#/components/schemas/A" =
      some ["components", "schemas", "A"] := by decide
  have second : Address.referenceNames? "#/components/schemas/B" =
      some ["components", "schemas", "B"] := by decide
  have shouted : upper "get" = "GET" := by decide
  have counts : LastQuery aliasedPageSize "/users" "get" "page_size" aliasedDeclaration
      [aliasedDeclaration] aliasedDeclaration :=
    ⟨⟨.rest rfl rfl, ⟨_, rfl, rfl⟩, .inr rfl⟩, [], [], by decide, by simp⟩
  have resolves : Resolves aliasedPageSize referenceLimit (aliasedDeclaration ++ [.name "schema"])
      [aliasedDeclaration ++ [.name "schema"], sharedSchemaPlace "A", sharedSchemaPlace "B"]
      (sharedSchemaPlace "B") :=
    .step rfl rfl first (.member rfl (.member rfl (.member rfl (.here _))))
      (.step rfl rfl second (.member rfl (.member rfl (.member rfl (.here _)))) (.rest rfl rfl))
  exact .intro (by decide) (placed.trans (by rw [shouted]; rfl)) message (by decide) rfl
    counts rfl resolves

theorem definitionFix_repeated_iff_aliased :
    ∃ found finding fix after outcome rerun,
      maxPageSize.findingsOn {} .standard aliasedPageSize = .ok found ∧ finding ∈ found ∧
      finding.fix? = some fix ∧
      PatchSession.applyFix ⟨aliasedPageSize, []⟩ fix finding.ruleId = .ok (after, outcome) ∧
      outcome.applied = true ∧ maxPageSize.findingsOn {} .standard after.document = .ok rerun ∧
      ∃ other ∈ rerun, other.path = finding.path ∧ other.message = finding.message := by
  have course : ((maxPageSize.findingsOn {} .standard aliasedPageSize).toOption.any
      fun found => found.any fun finding => finding.path == "GET /users" &&
        (finding.message == maximumMessage "page_size" && finding.fix?.any fun fix =>
          (fix.changes.all fun change => (change.locate aliasedPageSize).toOption ==
            some (sharedSchemaPlace "A" ++ ["maximum"].map .name)) &&
          (PatchSession.applyFix ⟨aliasedPageSize, []⟩ fix finding.ruleId).toOption.any
            fun (after, outcome) => outcome.applied &&
              (maxPageSize.findingsOn {} .standard after.document).toOption.any fun _ => true)) =
                true := by
    decide +kernel
  obtain ⟨found, reported, course⟩ := ok_of_any course
  obtain ⟨finding, among, course⟩ := List.any_eq_true.mp course
  obtain ⟨placed, course⟩ := Bool.and_eq_true_iff.mp course
  obtain ⟨message, course⟩ := Bool.and_eq_true_iff.mp course
  obtain ⟨fix, carried, course⟩ := (Option.any_eq_true _ _).mp course
  obtain ⟨located, course⟩ := Bool.and_eq_true_iff.mp course
  obtain ⟨⟨after, outcome⟩, ran, course⟩ := ok_of_any course
  obtain ⟨applied, course⟩ := Bool.and_eq_true_iff.mp course
  obtain ⟨rerun, again, _⟩ := ok_of_any course
  obtain ⟨change, place, changes, means, _, described⟩ :=
    @definitionFix_repeated_iff {} .standard found finding fix finding.ruleId outcome .pageSize
      ⟨aliasedPageSize, []⟩ after (by decide) (by decide) reported among carried ran
      applied
  have hits : place = sharedSchemaPlace "A" := by
    have same := eq_of_beq (List.all_eq_true.mp located change (by rw [changes]; exact .head _))
    rw [means] at same
    exact List.append_cancel_right (Option.some.inj same)
  subst hits
  have spares : ∀ name, name ≠ "maximum" →
      aliasedPageSize.Spares (sharedSchemaPlace "A" ++ ["maximum"].map .name) name :=
    fun name different =>
      Node.spares_below (show aliasedPageSize.at? (sharedSchemaPlace "A") = some _ from rfl)
        (by simpa using different) (by simp)
  have alone : LeavesAlone aliasedPageSize (sharedSchemaPlace "A" ++ ["maximum"].map .name)
      aliasedCourse :=
    ⟨by decide, ⟨spares _ (by decide), spares _ (by decide), spares _ (by decide),
      spares _ (by decide)⟩, fun _ among => (nomatch among), by decide⟩
  refine ⟨found, finding, fix, after, outcome, rerun, reported, among, carried, ran, applied, again,
    ?_⟩
  exact (described aliasedCourse (judgesPageSize_aliased (eq_of_beq placed) (eq_of_beq message))
    (.inr alone) rerun again).mpr (by decide)

end ApiReview
