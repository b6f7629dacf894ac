import ApiReview.Proofs.Rules.OperationFixes
import ApiReview.Rules.StandardMethods

/-! Removing request bodies. The operations of a path item are found under methods
in any letter case, but the fix of a finding removes the body below the method in
lower case. It is always applied, and what it leaves behind is described here: the
bodies of operations whose methods are spelled differently. -/

set_option autoImplicit false

namespace ApiReview

open ApiReview.Text Rules

variable {rule : Rule} {readable : Members → Bool} {context : RuleContext}
  {operation other : Operation} {finding : Finding} {message suggestion path key method : String}
  {root pathItem : Members}

/-! ## The rules -/

/-- The rules that report request bodies, and the definitions of operations that each can read. A
deletion is judged by the codes of its responses as well. -/
inductive ForbidsBody : Rule → (Members → Bool) → Prop
  | reading : ForbidsBody getNoBody fun _ => true
  | deletion : ForbidsBody deleteIdempotent fun definition =>
      (Node.optional (Members.get? definition "responses")).elements.toOption.isSome

/-- A look that reports the body of each operation that it can read, and nothing else with a fix. -/
structure LooksForBody (look : RuleContext → Operation → Report) (message suggestion : String)
    (readable : Members → Bool) : Prop where
  reads : ∀ context operation, readable operation.definition = true →
    ∃ rest, look context operation = .ok (lookForBody context operation message suggestion ++ rest) ∧
      ∀ finding ∈ rest, finding.path = operation.location ∧ finding.fix? = none
  fails : ∀ context operation, readable operation.definition = false →
    ∃ fault, look context operation = .error fault

/-- A deletion whose codes can be listed: what is said of them comes without fixes. -/
theorem lookForIdempotentDelete_of_codes {codes : List Node}
    (listed : (Node.optional (Members.get? operation.definition "responses")).elements =
      .ok codes) :
    ∃ rest, lookForIdempotentDelete context operation =
        .ok (lookForBody context operation "DELETE should not have a request body"
          "Move any required data to path or query parameters" ++ rest) ∧
      ∀ finding ∈ rest, finding.path = operation.location ∧ finding.fix? = none := by
  rw [lookForIdempotentDelete, Operation.responseCodes, listed]
  simp only [bind, Except.bind, List.append_assoc]
  refine ⟨_, rfl, fun finding among => ?_⟩
  rcases List.mem_append.mp among with created | unusual
  · split at created
    · rw [List.mem_singleton.mp created]
      exact ⟨rfl, rfl⟩
    · cases created
  · split at unusual
    · cases unusual
    · rw [List.mem_singleton.mp unusual]
      exact ⟨rfl, rfl⟩

theorem lookForIdempotentDelete_looks :
    LooksForBody lookForIdempotentDelete "DELETE should not have a request body"
      "Move any required data to path or query parameters" fun definition =>
        (Node.optional (Members.get? definition "responses")).elements.toOption.isSome where
  reads context operation read := by
    cases listed : (Node.optional (Members.get? operation.definition "responses")).elements with
    | error fault =>
        rw [listed] at read
        cases read
    | ok codes => exact lookForIdempotentDelete_of_codes listed
  fails context operation unread := by
    cases listed : (Node.optional (Members.get? operation.definition "responses")).elements with
    | error fault =>
        refine ⟨fault, ?_⟩
        rw [lookForIdempotentDelete, Operation.responseCodes, listed]
        rfl
    | ok codes =>
        rw [listed] at unread
        cases unread

theorem ForbidsBody.looks (forbids : ForbidsBody rule readable) :
    ∃ look message suggestion, rule.check = .operation look ∧
      LooksForBody look message suggestion readable := by
  cases forbids with
  | reading =>
      refine ⟨_, "GET request has a request body", "Move request data to query parameters", rfl,
        fun context operation _ => ⟨[], ?_, by simp⟩, fun _ _ => nofun⟩
      rw [List.append_nil]
  | deletion => exact ⟨_, _, _, rfl, lookForIdempotentDelete_looks⟩

/-- The finding about the body of an operation with a method on a path. -/
def bodyFinding (context : RuleContext) (path method message suggestion : String) : Finding :=
  context.finding (method ++ " " ++ path) message
    { suggestion? := some suggestion, fix? := some (Fix.removeRequestBody path method) }

theorem mem_lookForBody
    (among : finding ∈ lookForBody context operation message suggestion) :
    Members.has operation.definition "requestBody" = true ∧
      finding = bodyFinding context operation.path operation.method message suggestion := by
  rw [lookForBody] at among
  split at among
  · rename_i hasBody
    exact ⟨hasBody, List.mem_singleton.mp among⟩
  · cases among

theorem LooksForBody.places {look : RuleContext → Operation → Report}
    (looks : LooksForBody look message suggestion readable) : PlacesFindings look := by
  intro context operation report looked finding among
  cases read : readable operation.definition with
  | false =>
      obtain ⟨fault, failed⟩ := looks.fails context operation read
      rw [failed] at looked
      cases looked
  | true =>
      obtain ⟨rest, reported, placed⟩ := looks.reads context operation read
      rw [reported] at looked
      rw [← Except.ok.inj looked] at among
      rcases List.mem_append.mp among with body | behind
      · rw [(mem_lookForBody body).2]
        rfl
      · exact (placed finding behind).1

/-- A finding with a fix is that of a body. -/
theorem LooksForBody.of_fix {look : RuleContext → Operation → Report} {report : List Finding}
    {fix : Fix} (looks : LooksForBody look message suggestion readable)
    (looked : look context operation = .ok report) (among : finding ∈ report)
    (carried : finding.fix? = some fix) :
    readable operation.definition = true ∧
      finding ∈ lookForBody context operation message suggestion := by
  cases read : readable operation.definition with
  | false =>
      obtain ⟨fault, failed⟩ := looks.fails context operation read
      rw [failed] at looked
      cases looked
  | true =>
      obtain ⟨rest, reported, placed⟩ := looks.reads context operation read
      rw [reported] at looked
      rw [← Except.ok.inj looked] at among
      rcases List.mem_append.mp among with body | behind
      · exact ⟨rfl, body⟩
      · rw [(placed finding behind).2] at carried
        cases carried

/-! ## After the removal -/

/-- A path item from which the body of the operation under a method was removed. -/
structure WithoutBody (pathItem : Members) (method : String) (later : Members) : Prop where
  distinct : (Members.keys later).Nodup
  others : ∀ key, key ≠ method → Members.get? later key = Members.get? pathItem key
  cleared : ∀ definition, Members.get? later method = some (.object definition) →
    Members.has definition "requestBody" = false

theorem WithoutBody.erased {definition : Members} (named : (Node.object pathItem).isNamed = true)
    (read : Members.get? pathItem method = some (.object definition)) :
    WithoutBody pathItem method (Members.put (.str method)
      (.object (Members.erase (.str "requestBody") definition)) pathItem) where
  distinct := Members.nodup_keys_put (Node.distinct_of_isNamed named)
  others _ different := Members.get?_put_ne different
  cleared later same := by
    rw [Members.get?_put_self] at same
    rw [← Node.object.inj (Option.some.inj same)]
    have definitionNamed := (Node.isNamed_of_mem named (Members.mem_of_lookup read)).2
    have gone : (Members.erase (.str "requestBody") definition).lookup (.str "requestBody") = none :=
      Members.lookup_erase_self (Node.distinct_of_isNamed definitionNamed)
    rw [Members.has, Members.get?, gone]
    rfl

/-- Removing a body below a path item, there or not, leaves the path item without it. -/
theorem pathItem_of_removal {change : Change} (kind : change.kind = .remove)
    (located : change.locate (.object root) =
      .ok (["paths", path, method, "requestBody"].map .name))
    (named : (Node.object root).isNamed = true)
    (listed : (.str path, .object pathItem) ∈ pathItems root) :
    ∃ spec later, change.apply (Node.object root) = .ok (.object spec) ∧
      WithoutBody pathItem method later ∧
      (Node.object spec).at? [.name "paths", .name path] = some (.object later) ∧
      (.str path, .object later) ∈ pathItems spec ∧
      ∀ pathKey item, (pathKey, .object item) ∈ pathItems spec → pathKey.display = path →
        item = later := by
  have itemNamed := (isNamed_pathItem named listed).2
  have itemAt := at?_pathItem named listed
  have way : change.locate (.object root) =
      .ok ((["paths", path, method] ++ ["requestBody"]).map .name) := located
  obtain ⟨after, applied, ⟨absent, rfl⟩ | ⟨definition, found, rfl⟩⟩ := Change.remove_names kind way
  · refine ⟨root, pathItem, applied, ⟨Node.distinct_of_isNamed itemNamed, fun _ _ => rfl, ?_⟩,
      itemAt, listed, ?_⟩
    · intro definition read
      have step : (Node.object pathItem).part? (.name method) = some (.object definition) := read
      rw [show (["paths", path, method] ++ ["requestBody"]).map Part.name =
          [.name "paths", .name path] ++ [.name method, .name "requestBody"] from rfl,
        Node.at?_append_of_some itemAt, Node.at?_cons, step, Option.bind_some,
        Node.at?_singleton] at absent
      have missing : Members.get? definition "requestBody" = none := absent
      rw [Members.has, missing]
      rfl
    · intro pathKey item inside same
      obtain ⟨⟨name, rfl⟩, _⟩ := isNamed_pathItem named inside
      have here := at?_pathItem named inside
      rw [show name = path from same, itemAt] at here
      exact (Node.object.inj (Option.some.inj here)).symm
  · have split : ["paths", path, method].map Part.name =
        [.name "paths", .name path] ++ [.name method] := rfl
    rw [split] at found applied
    have read := found
    rw [Node.at?_append_of_some itemAt, Node.at?_singleton] at read
    obtain ⟨spec, edited⟩ : ∃ spec, Node.object spec =
        Node.graft (.object (Members.erase (.str "requestBody") definition))
          [.name "paths", .name path, .name method] (.object root) :=
      ⟨_, (graft_in_pathItem named listed).symm⟩
    refine ⟨spec, _, applied.trans (congrArg Except.ok edited.symm),
      WithoutBody.erased itemNamed read, ?_, mem_pathItems_of_graft named listed edited, ?_⟩
    · rw [edited]
      exact Node.at?_graft_append itemAt
    · exact fun _ _ inside same => pathItem_of_graft named listed edited inside same

/-! ## What the fix does -/

/-- An operation that a finding is about: one at its location that has a request body. -/
structure Finding.IsAboutBody (finding : Finding) (document : Node) (path key : String)
    (pathItem definition : Members) : Prop where
  itemAt : document.at? [.name "paths", .name path] = some (.object pathItem)
  declared : Members.get? pathItem key = some (.object definition)
  isMethod : isMethodKey key = true
  placed : finding.path = upper key ++ " " ++ path
  hasBody : Members.has definition "requestBody" = true

/-- The bodies that stay when the body below a method is removed: those of the operations that the
rule can read and whose methods are spelled in another case. -/
def LeavesBody (readable : Members → Bool) (method : String) (pathItem : Members) : Prop :=
  ∃ key definition, Members.get? pathItem key = some (.object definition) ∧ lower key = method ∧
    key ≠ method ∧ Members.has definition "requestBody" = true ∧ readable definition = true

theorem body_stays_iff {definition later : Members} {after : Node}
    (declared : Members.get? pathItem key = some (.object definition))
    (hasBody : Members.has definition "requestBody" = true)
    (removed : WithoutBody pathItem (lower key) later)
    (reached : after.at? [.name "paths", .name path] = some (.object later)) :
    after.at? [.name "paths", .name path, .name key, .name "requestBody"] = none ↔
      lower key = key := by
  have way : [Part.name "paths", .name path, .name key, .name "requestBody"] =
      [.name "paths", .name path] ++ [.name key, .name "requestBody"] := rfl
  have step : (Node.object later).part? (.name key) = Members.get? later key := rfl
  rw [way, Node.at?_append_of_some reached, Node.at?_cons, step]
  constructor
  · intro gone
    by_contra different
    rw [removed.others key (Ne.symm different), declared, Option.bind_some,
      Node.at?_singleton] at gone
    have gone : Members.get? definition "requestBody" = none := gone
    rw [Members.has, gone] at hasBody
    cases hasBody
  · intro same
    cases read : Members.get? later key with
    | none => rfl
    | some value =>
        rw [Option.bind_some, Node.at?_singleton]
        cases value with
        | object inner =>
            have cleared := removed.cleared inner (by rw [same]; exact read)
            exact Option.isNone_iff_eq_none.mp (Option.isSome_eq_false_iff.mp cleared)
        | _ => rfl

/-- The finding comes up again where a body stays. -/
theorem mem_rerun_iff {look : RuleContext → Operation → Report} {settings : Settings}
    {vocabulary : Vocabulary} {spec later : Members} {rerun : List Finding}
    (check : rule.check = .operation look) (looks : LooksForBody look message suggestion readable)
    (header : context.header = rule.toRuleHeader) (method : isMethodKey key = true)
    (covered : rule.coversMethod (upper key) = true)
    (removed : WithoutBody pathItem (lower key) later)
    (listed : (.str path, .object later) ∈ pathItems spec)
    (only : ∀ pathKey item, (pathKey, .object item) ∈ pathItems spec → pathKey.display = path →
      item = later)
    (again : rule.findingsOn settings vocabulary (.object spec) = .ok rerun) :
    bodyFinding context path (upper key) message suggestion ∈ rerun ↔
      LeavesBody readable (lower key) pathItem := by
  constructor
  · intro among
    obtain ⟨facts, operation, pathKey, found, report, shape, _, source, placed, _, looked, inside⟩ :=
      Rule.looked_of_fix check looks.places again among rfl
    obtain ⟨read, body⟩ := looks.of_fix looked inside rfl
    obtain ⟨hasBody, _⟩ := mem_lookForBody body
    have placed : upper key ++ " " ++ path = upper found ++ " " ++ operation.path := by
      rw [← source.method]
      exact placed
    obtain ⟨sameMethod, samePath⟩ := location_injective method source.isMethod placed
    cases shape
    have item := only pathKey operation.pathItem source.listed (source.path.trans samePath.symm)
    have declared : Members.get? later found = some (.object operation.definition) := by
      rw [← item]
      exact Members.lookup_of_mem (item ▸ removed.distinct) source.declared
    have different : found ≠ lower key := by
      rintro rfl
      rw [removed.cleared _ declared] at hasBody
      cases hasBody
    rw [removed.others found different] at declared
    exact ⟨found, operation.definition, declared, sameMethod.symm, different, hasBody, read⟩
  · rintro ⟨found, definition, declared, sameMethod, different, hasBody, read⟩
    rw [← removed.others found different] at declared
    obtain ⟨facts, derived, ran⟩ := Rule.findingsOn_ok again
    obtain ⟨shape, _, operationsRead⟩ := ReviewFacts.ofSpec_ok derived
    cases shape
    have foundMethod : isMethodKey found = true := by
      rw [isMethodKey, sameMethod]
      exact method
    have sameUpper : upper found = upper key := by
      rw [← upper_lower_of_isMethodKey foundMethod, sameMethod, upper_lower_of_isMethodKey method]
    obtain ⟨operation, among, source, _, rfl⟩ :=
      operationsOf_mem operationsRead listed (Members.mem_of_lookup declared) foundMethod
    have operationMethod : operation.method = upper key := source.method.trans sameUpper
    obtain ⟨rest, looked, _⟩ := looks.reads ⟨facts, rule.toRuleHeader⟩ operation read
    have visited : .ok (.operation operation) ∈ facts.visits rule.kind := by
      rw [show rule.kind = .operation by rw [Rule.kind, check]; rfl]
      exact List.mem_map.mpr ⟨operation, among, rfl⟩
    have coversOperation : rule.covers (.operation operation) = true := by
      rw [Rule.covers, operationMethod]
      exact covered
    have lookedAt : rule.look facts (.operation operation) = .ok (lookForBody
        ⟨facts, rule.toRuleHeader⟩ operation message suggestion ++ rest) := by
      simpa only [Rule.look, check] using looked
    refine Rule.run_mem ran visited coversOperation lookedAt (List.mem_append_left rest ?_)
    have operationPath : operation.path = path := source.path.symm
    rw [lookForBody, if_pos hasBody, List.mem_singleton, bodyFinding, Operation.location,
      operationMethod, operationPath, RuleContext.finding, RuleContext.finding, header]

/-- The fix of a finding about a request body is always applied. It removes the body of an
operation that the finding is about exactly if its method is in lower case, and the rule reports
the same finding again exactly if the path item has another spelling of the method whose operation
has a body that the rule can read. -/
theorem removeRequestBody_exact {settings : Settings} {vocabulary : Vocabulary}
    (session : PatchSession Node) {found : List Finding} {fix : Fix}
    (forbids : ForbidsBody rule readable) (named : session.document.isNamed = true)
    (reported : rule.findingsOn settings vocabulary session.document = .ok found)
    (among : finding ∈ found) (carried : finding.fix? = some fix) (ruleId : String) :
    (∃ path key pathItem definition,
      finding.IsAboutBody session.document path key pathItem definition) ∧
    ∃ after outcome, session.applyFix fix ruleId = .ok (after, outcome) ∧ outcome.applied = true ∧
      ∀ path key pathItem definition,
        finding.IsAboutBody session.document path key pathItem definition →
        (after.document.at? [.name "paths", .name path, .name key, .name "requestBody"] = none ↔
          lower key = key) ∧
        ∀ rerun, rule.findingsOn settings vocabulary after.document = .ok rerun →
          (finding ∈ rerun ↔ LeavesBody readable (lower key) pathItem) := by
  obtain ⟨look, message, suggestion, check, looks⟩ := forbids.looks
  obtain ⟨facts, operation, pathKey, key, report, shape, _, source, placed, covered, looked, inside⟩ :=
    Rule.looked_of_fix check looks.places reported among carried
  obtain ⟨_, body⟩ := looks.of_fix looked inside carried
  obtain ⟨hasBody, rfl⟩ := mem_lookForBody body
  rw [source.method] at carried covered placed ⊢
  rw [shape] at named ⊢
  cases carried
  obtain ⟨itemAt, declared⟩ := source.at?_eq named
  have listed := source.listed
  rw [source.pathKey_eq named] at listed
  have located : Change.locate
      ⟨.remove, Address.ofRequestBody operation.path (upper key), none, none, .null⟩
      (.object facts.spec) =
        .ok (["paths", operation.path, lower key, "requestBody"].map .name) := by
    rw [Change.locate, Address.locate_ofRequestBody source.isMethod]
    rfl
  obtain ⟨spec, later, made, removed, reached, laterListed, only⟩ :=
    pathItem_of_removal rfl located named listed
  rw [← shape] at made
  obtain ⟨outcome, applied, ran⟩ := PatchSession.applyFix_of_apply
    (show (Fix.removeRequestBody operation.path (upper key)).changes = [_] from rfl) made ruleId
  refine ⟨⟨operation.path, key, operation.pathItem, operation.definition,
    ⟨itemAt, declared, source.isMethod, rfl, hasBody⟩⟩, _, outcome, ran, applied, ?_⟩
  intro path other pathItem definition about
  obtain ⟨sameMethod, rfl⟩ := location_injective source.isMethod about.isMethod about.placed
  have sameItem : operation.pathItem = pathItem :=
    Node.object.inj (Option.some.inj (itemAt.symm.trans about.itemAt))
  subst sameItem
  refine ⟨?_, fun rerun again => ?_⟩
  · rw [sameMethod] at removed
    exact body_stays_iff about.declared about.hasBody removed reached
  · rw [← sameMethod]
    exact mem_rerun_iff check looks rfl source.isMethod covered removed laterListed only again

/-- A document whose one operation is spelled in upper case and has a request body. -/
def shoutedUsers : Node :=
  .object [(.str "paths", .object [(.str "/users", .object [(.str "GET",
    .object [(.str "requestBody", .object [])])])])]

theorem removeRequestBody_exact_shouted :
    ∃ found finding fix after outcome rerun,
      getNoBody.findingsOn {} .standard shoutedUsers = .ok found ∧ finding ∈ found ∧
      finding.fix? = some fix ∧
      PatchSession.applyFix ⟨shoutedUsers, []⟩ fix finding.ruleId = .ok (after, outcome) ∧
      outcome.applied = true ∧
      after.document.at? [.name "paths", .name "/users", .name "GET", .name "requestBody"] ≠ none ∧
      getNoBody.findingsOn {} .standard after.document = .ok rerun ∧ finding ∈ rerun := by
  have course : ((getNoBody.findingsOn {} .standard shoutedUsers).toOption.any
      fun found => found.any fun finding => finding.path == "GET /users" &&
        finding.fix?.any fun fix =>
          (PatchSession.applyFix ⟨shoutedUsers, []⟩ fix finding.ruleId).toOption.any
            fun (after, _) =>
              (getNoBody.findingsOn {} .standard after.document).toOption.any fun _ => true) =
                true := by
    decide +kernel
  obtain ⟨found, reported, course⟩ := ok_of_any course
  obtain ⟨finding, among, course⟩ := List.any_eq_true.mp course
  obtain ⟨placed, course⟩ := Bool.and_eq_true_iff.mp course
  obtain ⟨fix, carried, course⟩ := (Option.any_eq_true _ _).mp course
  obtain ⟨⟨after, outcome⟩, ran, course⟩ := ok_of_any course
  obtain ⟨rerun, again, _⟩ := ok_of_any course
  obtain ⟨_, reached, result, made, applied, described⟩ :=
    removeRequestBody_exact ⟨shoutedUsers, []⟩ .reading (by decide) reported among carried
      finding.ruleId
  cases ran.symm.trans made
  have method : isMethodKey "GET" = true := by decide
  have lowered : lower "GET" = "get" := by decide
  have shouted : upper "GET" = "GET" := by decide
  obtain ⟨removed, repeated⟩ := described "/users" "GET" _ _
    ⟨rfl, rfl, method, by rw [shouted]; exact eq_of_beq placed, rfl⟩
  refine ⟨found, finding, fix, after, outcome, rerun, reported, among, carried, ran, applied,
    fun gone => ?_, again, ?_⟩
  · have same := removed.mp gone
    rw [lowered] at same
    exact absurd same (by decide)
  · exact (repeated rerun again).mpr ⟨"GET", _, rfl, rfl, by rw [lowered]; decide, rfl, rfl⟩

end ApiReview
