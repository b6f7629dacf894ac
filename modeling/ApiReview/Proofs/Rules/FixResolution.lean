import ApiReview.Proofs.Rules.AddedParameters
import ApiReview.Rules.Standard

/-! Fixes resolve their findings. When the fix of a finding is applied, the rule
that reported it finds nothing at the same location any more. The eight rules
here put what they miss where they look for it: parameters into the list of the
operation, responses under their codes, an operation into its path item, a schema
among the shared ones. Nothing is said of other locations, nor that the document
can still be reviewed. -/

set_option autoImplicit false

namespace ApiReview

open ApiReview.Text Rules

variable {name location : String} {operation : Operation}

/-! ## Parameters -/

theorem Operation.hasQueryParameter_of_declares {names : List String} (listed : name ∈ names)
    (declares : operation.Declares name "query") : operation.hasQueryParameter names = true := by
  obtain ⟨declared, inside, place, _, sameName⟩ := declares
  rw [hasQueryParameter, findParameter?, List.find?_isSome]
  refine ⟨declared, inside, ?_⟩
  rw [sameName (by decide), place, Bool.and_eq_true]
  exact ⟨List.contains_iff_mem.mpr listed, Node.same_str_self "query"⟩

theorem hasFilter_of_declares (declares : operation.Declares "filter" "query") :
    hasFilter operation = true := by
  obtain ⟨declared, inside, place, sameName, _⟩ := declares
  rw [hasFilter, Bool.or_eq_true]
  refine .inl (List.any_eq_true.mpr ⟨declared, List.mem_filter.mpr ⟨inside, ?_⟩, ?_⟩)
  · rw [place]
    exact Node.same_str_self "query"
  · rw [sameName]
    decide

theorem hasIdempotencyHeader_of_declares (declares : operation.Declares "Idempotency-Key" "header") :
    hasIdempotencyHeader operation = true := by
  obtain ⟨declared, inside, place, sameName, _⟩ := declares
  refine List.any_eq_true.mpr ⟨declared, inside, ?_⟩
  rw [place, sameName, Bool.and_eq_true]
  exact ⟨Node.same_str_self "header", by decide⟩

/-- The parameters that rules propose are proposals under their names. -/
theorem isProposal_optionalParameter (schema : Node) (description : String)
    (hasName : lower name ≠ lower "") :
    IsProposal (optionalParameter name location schema description) name location :=
  ⟨rfl, rfl, rfl, hasName⟩

/-- A look that reports missing parameters unless it is satisfied. -/
theorem addsParameters_of_satisfied {look : RuleContext → Operation → Report}
    {proposals : List Node} {satisfied : RuleContext → Operation → Bool}
    {message suggestion : String}
    (shape : ∀ context operation, look context operation =
      if satisfied context operation then .ok []
      else missingParameters context operation message suggestion proposals)
    (satisfies : ∀ context operation,
      (∀ parameter ∈ proposals, ∀ name location, IsProposal parameter name location →
        operation.Declares name location) → satisfied context operation = true)
    (inline : ∀ proposal ∈ proposals, proposal.get? "$ref" = none) :
    AddsParameters look proposals where
  reports := by
    intro context operation report looked
    rw [shape] at looked
    split at looked
    · cases looked
      exact .inl rfl
    · exact .inr ⟨message, suggestion, looked⟩
  silent := by
    intro context operation declares
    rw [shape, if_pos (satisfies context operation declares)]
  inline := inline

theorem hasFiltering_fixesResolve : hasFiltering.FixesResolve hasPlainReferences := by
  refine AddsParameters.fixesResolve rfl (addsParameters_of_satisfied (fun _ _ => rfl) ?_ ?_)
  · intro context operation declares
    rw [hasFilter_of_declares (declares filterParameter (List.mem_singleton.mpr rfl) _ _
      (isProposal_optionalParameter _ _ (by decide))), Bool.or_true]
  · intro proposal proposed
    rw [List.mem_singleton.mp proposed]
    rfl

theorem hasOrdering_fixesResolve : hasOrdering.FixesResolve hasPlainReferences := by
  refine AddsParameters.fixesResolve rfl (addsParameters_of_satisfied (fun _ _ => rfl) ?_ ?_)
  · intro context operation declares
    have declared := declares orderParameter (List.mem_singleton.mpr rfl) _ _
      (isProposal_optionalParameter _ _ (by decide))
    rw [Operation.hasQueryParameter_of_declares (by decide) declared, Bool.or_true]
  · intro proposal proposed
    rw [List.mem_singleton.mp proposed]
    rfl

theorem listPaginated_fixesResolve : listPaginated.FixesResolve hasPlainReferences := by
  refine AddsParameters.fixesResolve rfl (addsParameters_of_satisfied (fun _ _ => rfl) ?_ ?_)
  · intro context operation declares
    have declared := declares _ (List.mem_cons_self : _ ∈ pageParameters) _ _
      (isProposal_optionalParameter _ _ (by decide))
    rw [Operation.hasQueryParameter_of_declares (by decide) declared, Bool.or_true, Bool.true_or]
  · intro proposal proposed
    simp only [pageParameters, List.mem_cons, List.not_mem_nil, or_false] at proposed
    rcases proposed with rfl | rfl <;> rfl

theorem idempotencyKey_fixesResolve : idempotencyKey.FixesResolve hasPlainReferences := by
  refine AddsParameters.fixesResolve rfl (addsParameters_of_satisfied (fun _ _ => rfl) ?_ ?_)
  · intro context operation declares
    rw [hasIdempotencyHeader_of_declares (declares idempotencyParameter
      (List.mem_singleton.mpr rfl) _ _ (isProposal_optionalParameter _ _ (by decide))),
      Bool.or_true]
  · intro proposal proposed
    rw [List.mem_singleton.mp proposed]
    rfl

/-! ## Responses -/

/-- The codes of an operation whose responses are an object with some member. -/
theorem responseCodes_of_object {responses : Members} {code : String} {response : Node}
    (listed : Members.get? operation.definition "responses" = some (.object responses))
    (present : Members.get? responses code = some response) :
    ∃ codes, operation.responseCodes = .ok codes ∧ codes.contains code = true := by
  have among := Members.mem_of_lookup present
  have filled : (Node.object responses).isFilled = true := by
    rw [Node.isFilled, List.isEmpty_eq_false_iff.mpr (List.ne_nil_of_mem among)]
    rfl
  have shape : Node.optional (Members.get? operation.definition "responses") =
      .object responses := by
    rw [listed, Node.optional, Option.getD_some, Node.orEmpty, if_pos filled]
  refine ⟨(responses.map fun member => member.1.toNode).map Node.display, ?_, ?_⟩
  · rw [Operation.responseCodes, shape]
    rfl
  · rw [List.contains_iff_mem, List.map_map]
    exact List.mem_map.mpr ⟨_, among, rfl⟩

theorem lookForCreated_of_created {responses : Members} {response : Node} {context : RuleContext}
    (listed : Members.get? operation.definition "responses" = some (.object responses))
    (present : Members.get? responses "201" = some response) :
    lookForCreated context operation = .ok [] := by
  obtain ⟨codes, read, created⟩ := responseCodes_of_object listed present
  rw [lookForCreated, read]
  split
  · rfl
  · simp only [bind, Except.bind, created, Bool.true_or, if_true]

/-- The finding about a creation that responds with 200, and the change of its fix. -/
theorem lookForCreated_ok {context : RuleContext} {report : List Finding}
    (looked : lookForCreated context operation = .ok report) {finding : Finding}
    (among : finding ∈ report) :
    finding.path = operation.location ∧
      finding.fix? = some (Fix.changeStatusCode operation.path operation.method "200" "201") := by
  rw [lookForCreated] at looked
  split at looked
  · cases looked
    cases among
  · obtain ⟨codes, _, looked⟩ := bind_ok looked
    split at looked
    · cases looked
      cases among
    · cases looked
      rw [List.mem_singleton.mp among]
      exact ⟨rfl, rfl⟩

theorem postReturnsCreated_fixesResolve (allowed : Node → Bool) :
    postReturnsCreated.FixesResolve allowed := by
  have places : PlacesFindings lookForCreated := fun _ _ _ looked _ among =>
    (lookForCreated_ok looked among).1
  intro settings vocabulary before after found rerun finding fix named distinct _ reported among
    carried made again
  obtain ⟨facts, operation, pathKey, key, report, rfl, _, source, placed, _, looked, inside⟩ :=
    Rule.looked_of_fix rfl places reported among carried
  rw [(lookForCreated_ok looked inside).2] at carried
  rw [← Option.some.inj carried] at made
  have applied := Change.applyAll_singleton made
  let way := ["paths", operation.path, lower key, "responses"]
  have located : Change.locate ⟨.renameKey, Address.ofResponses operation.path operation.method,
      some "200", some "201", .null⟩ (.object facts.spec) = .ok ([] ++ way.map .name) := by
    rw [Change.locate, source.method, Address.locate_ofResponses source.isMethod operation.path]
    rfl
  obtain ⟨responses, reached, renamed⟩ := Change.rename_ok rfl rfl rfl located rfl applied
  obtain ⟨held, operationAt, _⟩ := at?_below_operation reached
  have edited : ∃ changed response, after = Node.graft (.object changed) (way.map .name)
      (.object facts.spec) ∧ Members.get? changed "201" = some response := by
    rcases renamed with ⟨present, rfl⟩ | ⟨present, absent, rfl⟩
    · obtain ⟨response, read⟩ := Option.isSome_iff_exists.mp present
      exact ⟨responses, response, (Node.graft_of_at? reached).symm, read⟩
    · obtain ⟨response, read⟩ := Option.isSome_iff_exists.mp present
      refine ⟨_, response, rfl, ?_⟩
      rw [Members.get?, Members.lookup_renameKey_new (Members.has_eq_false_iff.mp absent)]
      exact read
  obtain ⟨changed, response, edited, created⟩ := edited
  rw [placed]
  refine Rule.no_finding_after_graft rfl places source named distinct operationAt edited again ?_
  intro _ later _ _ _ definition
  refine lookForCreated_of_created ?_ created
  rw [definition, Members.get?_put_self]
  rfl

theorem lookForErrorResponses_ok {context : RuleContext} {report : List Finding}
    (looked : lookForErrorResponses context operation = .ok report) {finding : Finding}
    (among : finding ∈ report) :
    finding.path = operation.location ∧ ∃ response, finding.fix? =
      some (Fix.addResponse operation.path operation.method "default" response) := by
  obtain ⟨codes, _, looked⟩ := bind_ok looked
  split at looked
  · cases looked
    cases among
  · obtain ⟨names, _, looked⟩ := bind_ok looked
    cases looked
    rw [List.mem_singleton.mp among]
    exact ⟨rfl, _, rfl⟩

theorem responsesDocumented_fixesResolve (allowed : Node → Bool) :
    responsesDocumented.FixesResolve allowed := by
  have places : PlacesFindings lookForErrorResponses := fun _ _ _ looked _ among =>
    (lookForErrorResponses_ok looked among).1
  intro settings vocabulary before after found rerun finding fix named distinct _ reported among
    carried made again
  obtain ⟨facts, operation, pathKey, key, report, rfl, _, source, placed, _, looked, inside⟩ :=
    Rule.looked_of_fix rfl places reported among carried
  obtain ⟨response, proposed⟩ := (lookForErrorResponses_ok looked inside).2
  rw [proposed] at carried
  rw [← Option.some.inj carried] at made
  have applied := Change.applyAll_singleton made
  let way := ["paths", operation.path, lower key, "responses", "default"]
  have located : Change.locate ⟨.set,
      Address.ofResponse operation.path operation.method "default", none, none, response⟩
      (.object facts.spec) = .ok ([] ++ way.map .name) := by
    rw [Change.locate, source.method, Address.locate_ofResponse source.isMethod operation.path]
    rfl
  obtain ⟨edited, opened, edits, parents⟩ :=
    Change.set_ok rfl (by simp [way]) located rfl applied
  obtain ⟨held, operationAt⟩ := (parentEdits_protected parents).2 (by simp)
  have definitionAt := (source.eq_of_lower named distinct operationAt).2
  have below : held.isOpen [.name "responses", .name "default"] = true :=
    (Node.isOpen_append operationAt).symm.trans opened
  rw [definitionAt, Node.isOpen, Bool.and_eq_true] at below
  obtain ⟨responses, shape, written⟩ := Node.graft_name_of_isOpen response below.2
  rw [placed]
  refine Rule.no_finding_after_graft rfl places source named distinct operationAt edited again ?_
  intro _ later _ _ _ definition
  have listed : Members.get? later.definition "responses" =
      some (.object (Members.put (.str "default") response responses)) := by
    rw [definition, Members.get?_put_self]
    exact congrArg some written
  obtain ⟨codes, read, documented⟩ := responseCodes_of_object listed Members.get?_put_self
  rw [lookForErrorResponses, read]
  simp only [bind, Except.bind, documented, Bool.true_or, if_true]

/-! ## Partial updates -/

theorem lookForPatch_of_patch {context : RuleContext} {path : String} {pathItem : Members}
    (present : Members.has pathItem "patch" = true) :
    lookForPatch context path (.object pathItem) = .ok [] := by
  rw [lookForPatch]
  split
  · rfl
  · simp only [Node.mentions, bind, Except.bind, present, if_true]
    split <;> rfl

/-- A look at a path item that is an object does not fail, and says what it found of its path. -/
theorem lookForPatch_object (context : RuleContext) (path : String) (pathItem : Members) :
    ∃ report, lookForPatch context path (.object pathItem) = .ok report ∧
      ∀ finding ∈ report, finding.path = "PUT " ++ path ∧ ∀ fix, finding.fix? = some fix →
        ∃ put, fix = Fix.addOperation path "patch" (patchTemplate put) (some "put") := by
  rw [lookForPatch]
  split
  · exact ⟨[], rfl, by simp⟩
  simp only [Node.mentions, bind, Except.bind]
  split
  · exact ⟨[], rfl, by simp⟩
  split
  · exact ⟨[], rfl, by simp⟩
  split
  · refine ⟨_, rfl, fun finding among => ?_⟩
    rw [List.mem_singleton.mp among]
    refine ⟨rfl, fun fix carried => ?_⟩
    obtain ⟨put, _, built⟩ := Option.map_eq_some_iff.mp carried
    exact ⟨put, built.symm⟩
  · refine ⟨_, rfl, fun finding among => ?_⟩
    rw [List.mem_singleton.mp among]
    exact ⟨rfl, fun fix carried => nomatch carried⟩

/-- A finding of the rule comes from a path item of the document. -/
theorem patchOverPut_of_mem {settings : Settings} {vocabulary : Vocabulary} {document : Node}
    {found : List Finding} {finding : Finding}
    (reported : patchOverPut.findingsOn settings vocabulary document = .ok found)
    (among : finding ∈ found) :
    ∃ facts pathKey pathItem report, document = .object facts.spec ∧
      (pathKey, .object pathItem) ∈ pathItems facts.spec ∧
      lookForPatch ⟨facts, patchOverPut.toRuleHeader⟩ pathKey.display (.object pathItem) =
        .ok report ∧ finding ∈ report := by
  obtain ⟨facts, derived, ran⟩ := Rule.findingsOn_ok reported
  obtain ⟨element, visited, _, reports⟩ := Rule.mem_run ran among
  obtain ⟨⟨path, item⟩, listed, shape⟩ := List.mem_map.mp visited
  cases shape
  obtain ⟨listed, isObject⟩ := List.mem_filter.mp listed
  obtain ⟨⟨pathKey, _⟩, inside, shape⟩ := List.mem_map.mp listed
  cases shape
  cases item with
  | object pathItem =>
      obtain ⟨report, looked, _⟩ :=
        lookForPatch_object ⟨facts, patchOverPut.toRuleHeader⟩ pathKey.display pathItem
      refine ⟨facts, pathKey, pathItem, report, (ReviewFacts.ofSpec_ok derived).1, inside, looked, ?_⟩
      have same : patchOverPut.look facts (.path pathKey.display (.object pathItem)) =
          .ok report := looked
      cases reports with
      | looked again among =>
          rw [same] at again
          cases again
          exact among
      | failed failed _ =>
          rw [same] at failed
          cases failed
  | _ => cases isObject

theorem patchOverPut_fixesResolve (allowed : Node → Bool) :
    patchOverPut.FixesResolve allowed := by
  intro settings vocabulary before after found rerun finding fix named _ _ reported among carried
    made again other inRerun samePath
  obtain ⟨facts, pathKey, pathItem, report, rfl, listed, looked, inside⟩ :=
    patchOverPut_of_mem reported among
  obtain ⟨⟨path, rfl⟩, itemNamed⟩ := isNamed_pathItem named listed
  obtain ⟨same, ran, describes⟩ :=
    lookForPatch_object ⟨facts, patchOverPut.toRuleHeader⟩ path pathItem
  rw [show (Key.str path).display = path from rfl, ran] at looked
  cases looked
  obtain ⟨put, rfl⟩ := (describes finding inside).2 fix carried
  have applied := Change.applyAll_singleton made
  have located : Change.locate ⟨.set, Address.ofOperation path "patch", none, none,
      patchTemplate put⟩ (.object facts.spec) = .ok ([] ++ ["paths", path, "patch"].map .name) := by
    have method : isMethodKey "patch" = true := by decide
    have address : Address.ofOperation path "patch" = Address.ofOperation path (upper "patch") := by
      rw [Address.ofOperation, Address.ofOperation, lower_upper_of_isMethodKey method]
    have lowered : lower "patch" = "patch" := by decide
    rw [Change.locate, address, Address.locate_ofOperation method path, lowered]
    rfl
  obtain ⟨edited, _⟩ := Change.set_ok rfl (by simp) located rfl applied
  obtain ⟨laterFacts, laterKey, laterItem, laterReport, rfl, laterListed, laterLooked, laterInside⟩ :=
    patchOverPut_of_mem again inRerun
  obtain ⟨laterSame, laterRan, laterDescribes⟩ :=
    lookForPatch_object ⟨laterFacts, patchOverPut.toRuleHeader⟩ laterKey.display laterItem
  rw [laterRan] at laterLooked
  cases laterLooked
  rw [(laterDescribes other laterInside).1, (describes finding inside).1] at samePath
  have equal : laterKey.display = path := (String.append_right_inj "PUT ").mp samePath
  rw [pathItem_of_graft named listed edited laterListed equal,
    lookForPatch_of_patch (Members.has_iff.mpr (Members.mem_keys_put.mpr (.inl rfl)))] at laterRan
  cases laterRan
  cases laterInside

/-! ## Shared schemas -/

/-- Where the names of shared schemas are texts, the names for errors can be listed. -/
theorem errorSchemaNames_of_present {facts : ReviewFacts} {schema : Node}
    (named : ∀ key value, (key, value) ∈ sharedSchemas facts.spec → ∃ name, key = .str name)
    (present : (.str errorSchemaName, schema) ∈ sharedSchemas facts.spec) :
    ∃ names, errorSchemaNames facts = .ok names ∧ errorSchemaName ∈ names := by
  obtain ⟨step, shape, reads⟩ : ∃ step : Key × Node → Except Fault String,
      errorSchemaNames facts = ((sharedSchemas facts.spec).mapM step >>= fun names =>
        .ok (names.filter fun name => Text.contains (lower name) "error")) ∧
      ∀ name value, step (.str name, value) = .ok name := ⟨_, rfl, fun _ _ => rfl⟩
  have readable : ∀ member ∈ sharedSchemas facts.spec, ∃ name, step member = .ok name := by
    rintro ⟨key, value⟩ among
    obtain ⟨name, rfl⟩ := named key value among
    exact ⟨name, reads name value⟩
  obtain ⟨names, walked⟩ := mapM_ok_of_forall readable
  obtain ⟨name, listed, same⟩ := mapM_ok_mem walked present
  cases (reads errorSchemaName schema).symm.trans same
  refine ⟨names.filter fun name => Text.contains (lower name) "error", ?_, ?_⟩
  · rw [shape, walked]
    rfl
  · exact List.mem_filter.mpr ⟨listed, by decide⟩

theorem lookForErrorSchema_of_present {context : RuleContext} {schema : Node}
    (named : ∀ key value, (key, value) ∈ sharedSchemas context.facts.spec → ∃ name, key = .str name)
    (present : (.str errorSchemaName, schema) ∈ sharedSchemas context.facts.spec) :
    lookForErrorSchema context = .ok [] := by
  obtain ⟨names, read, listed⟩ := errorSchemaNames_of_present named present
  have filled : names.isEmpty = false :=
    List.isEmpty_eq_false_iff.mpr (List.ne_nil_of_mem listed)
  rw [lookForErrorSchema, read]
  simp only [bind, Except.bind, filled, Bool.not_false, if_true]

/-- A schema that was set among the shared ones is one of them. -/
theorem sharedSchemas_of_graft {root spec : Members} {name : String} {schema : Node}
    (named : (Node.object root).isNamed = true)
    (opened : (Node.object root).isOpen [.name "components", .name "schemas", .name name] = true)
    (edited : Node.object spec = Node.graft schema
      [.name "components", .name "schemas", .name name] (.object root)) :
    (.str name, schema) ∈ sharedSchemas spec ∧
      ∀ key value, (key, value) ∈ sharedSchemas spec → ∃ name, key = .str name := by
  let components := (Members.get? root "components").getD (.object [])
  rw [Node.isOpen, Bool.and_eq_true] at opened
  have below : components.isOpen [.name "schemas", .name name] = true := opened.2
  rw [Node.isOpen, Bool.and_eq_true] at below
  have componentsNamed : components.isNamed = true := by
    cases read : Members.get? root "components" with
    | none => simp only [components, read]; rfl
    | some value =>
        simpa only [components, read, Option.getD_some] using Node.isNamed_of_get? named read
  rcases Node.takes_cases below.1 with ⟨_, parts, same, shape⟩ | ⟨_, _, impossible, _⟩
  · cases same
    let schemas := (Members.get? parts "schemas").getD (.object [])
    have last : schemas.isOpen [.name name] = true := by
      have inner := below.2
      rw [shape] at inner
      exact inner
    obtain ⟨present, object, written⟩ := Node.graft_name_of_isOpen schema last
    have schemasNamed : (Node.object present).isNamed = true := by
      rw [← object]
      rw [shape] at componentsNamed
      cases read : Members.get? parts "schemas" with
      | none => simp only [schemas, read]; rfl
      | some value =>
          simpa only [schemas, read, Option.getD_some]
            using Node.isNamed_of_get? componentsNamed read
    have rebuilt : spec = Members.put (.str "components") (.object (Members.put (.str "schemas")
        (.object (Members.put (.str name) schema present)) parts)) root := by
      have inner : Node.graft schema [.name "schemas", .name name] components =
          .object (Members.put (.str "schemas")
            (.object (Members.put (.str name) schema present)) parts) := by
        rw [shape, Node.graft_cons]
        exact congrArg (fun value => Node.object (Members.put (.str "schemas") value parts)) written
      rw [Node.graft_cons] at edited
      have edited := edited.trans (congrArg ((Node.object root).withPart (.name "components")) inner)
      exact Node.object.inj edited
    have read : sharedSchemas spec = Members.put (.str name) schema present := by
      have filled : ∀ rest : Members, (Node.object (Members.put (.str "schemas")
          (.object (Members.put (.str name) schema present)) rest)).isFilled = true := by
        intro rest
        rw [Node.isFilled, List.isEmpty_eq_false_iff.mpr]
        · rfl
        · exact List.ne_nil_of_mem (Members.mem_of_lookup Members.lookup_put_self)
      rw [sharedSchemas, rebuilt, Members.get?_put_self, Node.optional, Option.getD_some,
        Node.orEmpty, if_pos (filled parts), Node.get?, Node.members?, Option.bind_some,
        Members.get?_put_self]
      rfl
    rw [read]
    refine ⟨Members.mem_of_lookup Members.lookup_put_self, fun key value among => ?_⟩
    rcases Members.mem_keys_put.mp (Members.mem_keys_of_mem among) with rfl | old
    · exact ⟨name, rfl⟩
    · obtain ⟨held, inside⟩ := Members.exists_mem_of_mem_keys old
      exact (Node.isNamed_of_mem schemasNamed inside).1
  · cases impossible

theorem lookForErrorSchema_ok {context : RuleContext} {report : List Finding}
    (looked : lookForErrorSchema context = .ok report) {finding : Finding}
    (among : finding ∈ report) : finding.fix? = some (Fix.addSchema errorSchemaName errorSchema) := by
  obtain ⟨names, _, looked⟩ := bind_ok looked
  split at looked
  · cases looked
    cases among
  · cases looked
    rw [List.mem_singleton.mp among]
    rfl

theorem schemaDefined_fixesResolve (allowed : Node → Bool) :
    schemaDefined.FixesResolve allowed := by
  intro settings vocabulary before after found rerun finding fix named _ _ reported among carried
    made again other inRerun
  obtain ⟨facts, derived, ran⟩ := Rule.findingsOn_ok reported
  obtain ⟨rfl, _⟩ := ReviewFacts.ofSpec_ok derived
  obtain ⟨element, visited, _, reports⟩ := Rule.mem_run ran among
  cases List.mem_singleton.mp visited
  have proposed : finding.fix? = some (Fix.addSchema errorSchemaName errorSchema) := by
    cases reports with
    | looked looked inside => exact lookForErrorSchema_ok looked inside
    | failed _ recorded =>
        rw [recorded] at carried
        cases carried
  rw [proposed] at carried
  rw [← Option.some.inj carried] at made
  have applied := Change.applyAll_singleton made
  have located : Change.locate ⟨.set, Address.ofSchema errorSchemaName, none, none, errorSchema⟩
      (.object facts.spec) =
        .ok ([] ++ ["components", "schemas", errorSchemaName].map .name) := by
    rw [Change.locate, Address.locate_ofSchema]
    rfl
  obtain ⟨edited, opened, _⟩ := Change.set_ok rfl (by simp) located rfl applied
  obtain ⟨laterFacts, laterDerived, laterRan⟩ := Rule.findingsOn_ok again
  obtain ⟨shape, _⟩ := ReviewFacts.ofSpec_ok laterDerived
  obtain ⟨present, textual⟩ := sharedSchemas_of_graft named opened (shape.symm.trans edited)
  have quiet : schemaDefined.look laterFacts .spec = .ok [] :=
    lookForErrorSchema_of_present textual present
  obtain ⟨element, visited, _, reports⟩ := Rule.mem_run laterRan inRerun
  cases List.mem_singleton.mp visited
  cases reports with
  | looked looked inside =>
      rw [quiet] at looked
      cases looked
      cases inside
  | failed failed _ =>
      rw [quiet] at failed
      cases failed

/-! ## All of them -/

/-- The rules whose fixes put what is missing into the document itself. -/
def resolvingRules : List Rule :=
  [hasFiltering, hasOrdering, listPaginated, idempotencyKey, postReturnsCreated, patchOverPut,
   schemaDefined, responsesDocumented]

/-- Fixes resolve their findings. A finding of one of the rules is reported on a document with
textual keys, in which no path item has two keys equal up to letter case and references in
parameter lists stand alone. If its fix is applied, the rule reports nothing at the location of
the finding when it runs again with the same settings. -/
theorem fix_resolves_finding {rule : Rule} {settings : Settings} {vocabulary : Vocabulary}
    {session after : PatchSession Node} {found rerun : List Finding} {finding : Finding} {fix : Fix}
    {ruleId : String} {outcome : FixOutcome} (listed : rule ∈ resolvingRules)
    (named : session.document.isNamed = true)
    (distinct : hasDistinctMethods session.document = true)
    (plain : hasPlainReferences session.document = true)
    (reported : rule.findingsOn settings vocabulary session.document = .ok found)
    (among : finding ∈ found) (carried : finding.fix? = some fix)
    (ran : session.applyFix fix ruleId = .ok (after, outcome)) (applied : outcome.applied = true)
    (again : rule.findingsOn settings vocabulary after.document = .ok rerun) :
    ∀ other ∈ rerun, other.path ≠ finding.path := by
  have made := (PatchSession.applyFix_ok ran).2.applyAll_of_applied applied
  have resolves : rule.FixesResolve hasPlainReferences := by
    simp only [resolvingRules, List.mem_cons, List.not_mem_nil, or_false] at listed
    rcases listed with rfl | rfl | rfl | rfl | rfl | rfl | rfl | rfl
    · exact hasFiltering_fixesResolve
    · exact hasOrdering_fixesResolve
    · exact listPaginated_fixesResolve
    · exact idempotencyKey_fixesResolve
    · exact postReturnsCreated_fixesResolve _
    · exact patchOverPut_fixesResolve _
    · exact schemaDefined_fixesResolve _
    · exact responsesDocumented_fixesResolve _
  exact resolves settings vocabulary session.document after.document found rerun finding fix named
    distinct plain reported among carried made again

/-- A document with one operation, which documents no responses. -/
def undocumentedUsers : Node :=
  .object [(.str "paths", .object [(.str "/users", .object [(.str "get", .object [])])])]

theorem fix_resolves_finding_undocumented :
    ∃ found finding fix after outcome rerun,
      responsesDocumented.findingsOn {} .standard undocumentedUsers = .ok found ∧
      finding ∈ found ∧ finding.fix? = some fix ∧
      PatchSession.applyFix ⟨undocumentedUsers, []⟩ fix finding.ruleId = .ok (after, outcome) ∧
      outcome.applied = true ∧
      responsesDocumented.findingsOn {} .standard after.document = .ok rerun ∧
      ∀ other ∈ rerun, other.path ≠ finding.path := by
  have course : ((responsesDocumented.findingsOn {} .standard undocumentedUsers).toOption.any
      fun found => found.any fun finding => finding.fix?.any fun fix =>
        (PatchSession.applyFix ⟨undocumentedUsers, []⟩ fix finding.ruleId).toOption.any
          fun (after, outcome) => outcome.applied &&
            (responsesDocumented.findingsOn {} .standard after.document).toOption.any
              fun _ => true) = true := by
    decide +kernel
  obtain ⟨found, reported, course⟩ := ok_of_any course
  obtain ⟨finding, among, course⟩ := List.any_eq_true.mp course
  obtain ⟨fix, carried, course⟩ := (Option.any_eq_true _ _).mp course
  obtain ⟨⟨after, outcome⟩, ran, course⟩ := ok_of_any course
  obtain ⟨applied, course⟩ := Bool.and_eq_true_iff.mp course
  obtain ⟨rerun, again, _⟩ := ok_of_any course
  exact ⟨found, finding, fix, after, outcome, rerun, reported, among, carried, ran, applied, again,
    fix_resolves_finding (by simp [resolvingRules]) (by decide) (by decide) (by decide)
      reported among carried ran applied again⟩

end ApiReview
