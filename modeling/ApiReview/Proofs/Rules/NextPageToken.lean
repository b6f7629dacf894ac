import ApiReview.Proofs.Rules.PageSizes

/-! The field that continues a list. The rule judges the schema at the end of all
references of the response of a paginated list; the address of its fix is found
with the first reference of the response and the first of its schema. -/

set_option autoImplicit false

namespace ApiReview

open ApiReview.Text Rules

variable {document before : Node} {settings : Settings} {vocabulary : Vocabulary}
  {context : RuleContext} {operation : Operation} {report : List Finding} {finding : Finding}
  {course : Course} {schema properties : Members} {names : List String} {name address : String}
  {place way : List Part}

/-- The message about a response that does not say how to continue. -/
def nextTokenMessage : String := "Paginated response missing next_page_token field"

/-- The course of the rule from an operation on a collection that is paginated, over the content of
its response, to the schema of that content. -/
inductive JudgesResponse (settings : Settings) (vocabulary : Vocabulary) (document : Node)
    (finding : Finding) : Course → Prop
  | intro {path key name : String} {place definition counted judged : List Part}
      {toDefinition toSchema : List (List Part)} {operation : Members} :
      lower key = "get" → finding.path = upper key ++ " " ++ path →
      finding.message = nextTokenMessage →
      Path.isCollection vocabulary settings.singletonEndpoints path = true →
      document.at? [.name "paths", .name path, .name key] = some (.object operation) →
      name ∈ paginationNames → LastQuery document path key name place toDefinition definition →
      RespondsWith document path key "200" toSchema counted judged →
      JudgesResponse settings vocabulary document finding ⟨path, key,
        [.name "paths", .name path, .name key] :: (toDefinition ++ toSchema),
        preferredMediaTypes.map fun mediaType => counted ++ [.name mediaType], judged,
        judged ++ [.name "properties"]⟩

/-- A place holds a schema with no property that continues a list. -/
def LacksNextToken (document : Node) (place : List Part) : Prop :=
  ∃ schema, document.at? place = some (.object schema) ∧
    mentionsAny (Node.optional (Members.get? schema "properties")) nextTokenNames = .ok false

/-! ## The rule -/

theorem Operation.hasQueryParameter_iff :
    operation.hasQueryParameter names = true ↔
      ∃ parameter ∈ operation.parameters, ∃ name ∈ names, parameter.isAt name "query" := by
  rw [hasQueryParameter, findParameter?, List.find?_isSome]
  constructor
  · rintro ⟨parameter, among, both⟩
    obtain ⟨listed, located⟩ := Bool.and_eq_true_iff.mp both
    exact ⟨parameter, among, parameter.name, List.contains_iff_mem.mp listed, rfl,
      Node.same_str located⟩
  · rintro ⟨parameter, among, name, listed, rfl, located⟩
    refine ⟨parameter, among, Bool.and_eq_true_iff.mpr ⟨List.contains_iff_mem.mpr listed, ?_⟩⟩
    rw [located]
    exact Node.same_str_self "query"

theorem mentionsAny_object (properties : Members) (names : List String) :
    mentionsAny (.object properties) names = .ok (names.any (Members.has properties)) := by
  induction names with
  | nil => rfl
  | cons name names ih =>
      simp only [mentionsAny, Node.mentions, bind, Except.bind, ih, List.any_cons]
      cases Members.has properties name <;> rfl

theorem lookForNextToken_ok (looked : lookForNextToken context operation = .ok report)
    (among : finding ∈ report) :
    ∃ schema address, context.facts.isCollection operation.path = true ∧
      operation.hasQueryParameter paginationNames = true ∧
      responseSchema? context.facts.document operation "200" = .ok (some (schema, address)) ∧
      mentionsAny (Node.optional (Members.get? schema "properties")) nextTokenNames = .ok false ∧
      finding.path = operation.location ∧ finding.message = nextTokenMessage ∧
      ∀ fix, finding.fix? = some fix →
        fix = Fix.addSchemaProperty address "next_page_token" nextTokenSchema := by
  rw [lookForNextToken] at looked
  split at looked
  · cases looked
    cases among
  rename_i applies
  obtain ⟨found?, read, looked⟩ := bind_ok looked
  cases found? with
  | none =>
      cases looked
      cases among
  | some found =>
      obtain ⟨schema, address⟩ := found
      obtain ⟨mentioned, lacking, looked⟩ := bind_ok looked
      cases mentioned with
      | true =>
          cases looked
          cases among
      | false =>
          cases looked
          rw [List.mem_singleton.mp among]
          simp only [Bool.or_eq_true, Bool.not_eq_true', not_or, Bool.not_eq_false] at applies
          refine ⟨schema, address, applies.1, applies.2, read, lacking, rfl, rfl, ?_⟩
          intro fix carried
          simp only [RuleContext.finding] at carried
          split at carried
          · exact (Option.some.inj carried).symm
          · cases carried

theorem lookForNextToken_of_lacking (collection : context.facts.isCollection operation.path = true)
    (paginated : operation.hasQueryParameter paginationNames = true)
    (read : responseSchema? context.facts.document operation "200" = .ok (some (schema, address)))
    (lacking : mentionsAny (Node.optional (Members.get? schema "properties")) nextTokenNames =
      .ok false) :
    ∃ finding, lookForNextToken context operation = .ok [finding] ∧
      finding.path = operation.location ∧ finding.message = nextTokenMessage := by
  simp only [lookForNextToken, collection, paginated, read, lacking, bind, Except.bind,
    Bool.not_true, Bool.or_self, Bool.false_eq_true, if_false]
  exact ⟨_, rfl, rfl, rfl⟩

/-- The fix of the rule sets a property of the schema at its address. -/
theorem setsBelow_addSchemaProperty (text : Address.IsAddressText address) (name : String)
    (property : Node) :
    SetsBelow ["properties", name] property (Fix.addSchemaProperty address name property) := by
  have behind : ∀ steps, Address.IsWritten address steps →
      Address.IsWritten (Address.ofProperty address name)
        (steps ++ [.bare "properties", .quoted name]) := by
    intro steps written
    have front : Address.IsWritten (address ++ ".properties") (steps ++ [.bare "properties"]) :=
      written.bare rfl
    have whole := front.quoted name
    rwa [List.append_assoc] at whole
  refine .intro text behind ?_ rfl rfl
  intro step among
  simp only [List.mem_cons, List.not_mem_nil, or_false] at among
  rcases among with rfl | rfl
  · show Address.isPlainName "properties".toList = true
    decide
  · rfl

/-! ## Its course -/

/-- What the rule reports is that a schema at the end of its course has no field to continue. -/
theorem judgesResponse_of_look {facts : ReviewFacts} {element : Element}
    (derived : ReviewFacts.ofSpec document settings vocabulary = .ok facts)
    (named : document.isNamed = true) (visited : .ok element ∈ facts.visits responseNextToken.kind)
    (covered : responseNextToken.covers element = true)
    (looked : responseNextToken.look facts element = .ok report) (among : finding ∈ report) :
    ∃ course, JudgesResponse settings vocabulary document finding course ∧
      LacksNextToken document course.judged ∧ ∀ fix, finding.fix? = some fix →
        SetsBelow ["properties", "next_page_token"] nextTokenSchema fix := by
  obtain ⟨rfl, _, read⟩ := ReviewFacts.ofSpec_ok derived
  obtain ⟨operation, listed, shape⟩ := List.mem_map.mp visited
  cases shape
  obtain ⟨pathKey, key, source⟩ := mem_operationsOf read listed
  have coversMethod : responseNextToken.coversMethod operation.method = true := covered
  rw [source.method] at coversMethod
  have get := (RuleHeader.coversMethod_iff rfl source.isMethod).mp coversMethod
  obtain ⟨schema, address, collection, paginated, responded, lacking, placed, message, fixes⟩ :=
    lookForNextToken_ok looked among
  obtain ⟨parameter, declared, name, token, isAt⟩ := Operation.hasQueryParameter_iff.mp paginated
  obtain ⟨place, toDefinition, definition, counts, _⟩ :=
    exists_lastQuery source named declared isAt
  have operationAt := source.definitionAt named
  have word : Address.isPlainName (lower operation.method).toList = true := by
    rw [source.method, lower_upper_of_isMethodKey source.isMethod]
    exact (Address.isPlainName_lower source.isMethod).1
  obtain ⟨toSchema, counted, judged, responds, ends, text⟩ :=
    responseSchema?_ok operationAt named word responded
  have location : finding.path = upper key ++ " " ++ operation.path := by
    rw [placed, Operation.location, source.method]
  refine ⟨_, .intro get location message ((facts.isCollection_ofSpec derived _).symm.trans collection)
    operationAt token counts responds, ⟨schema, ends, lacking⟩, fun fix carried => ?_⟩
  rw [fixes fix carried]
  exact setsBelow_addSchemaProperty text _ _

/-- A schema without such a field at the end of the course is reported. -/
theorem JudgesResponse.look {facts : ReviewFacts}
    (judged : JudgesResponse settings vocabulary document finding course)
    (derived : ReviewFacts.ofSpec document settings vocabulary = .ok facts)
    (named : document.isNamed = true) (lacks : LacksNextToken document course.judged) :
    ∃ element report, .ok element ∈ facts.visits responseNextToken.kind ∧
      responseNextToken.covers element = true ∧
      responseNextToken.look facts element = .ok report ∧
      ∃ other ∈ report, other.path = finding.path ∧ other.message = finding.message := by
  obtain ⟨rfl, _, read⟩ := ReviewFacts.ofSpec_ok derived
  obtain ⟨get, placed, message, collection, operationAt, token, counts, responds⟩ := judged
  rename_i path key name _ _ _ judged _ _ _
  obtain ⟨schema, ends, lacking⟩ := lacks
  obtain ⟨operation, listed, source, rfl, _⟩ :=
    exists_operation_of_at? read operationAt (isMethodKey_of_get get)
  obtain ⟨parameter, alone, _⟩ := counts.onlyAt source named
  have paginated : operation.hasQueryParameter paginationNames = true :=
    Operation.hasQueryParameter_iff.mpr ⟨parameter, alone.among, name, token, alone.placed⟩
  obtain ⟨address, responded⟩ := responds.responseSchema?_eq (source.definitionAt named) ends
  have reports : ∃ other, lookForNextToken ⟨facts, responseNextToken.toRuleHeader⟩ operation =
      .ok [other] ∧ other.path = operation.location ∧ other.message = nextTokenMessage :=
    lookForNextToken_of_lacking ((facts.isCollection_ofSpec derived _).trans collection) paginated
      responded lacking
  obtain ⟨other, looked, otherPlaced, otherMessage⟩ := reports
  have visited : .ok (.operation operation) ∈ facts.visits responseNextToken.kind :=
    List.mem_map.mpr ⟨operation, listed, rfl⟩
  have covered : responseNextToken.covers (.operation operation) = true := by
    rw [Rule.covers, source.method]
    exact (RuleHeader.coversMethod_iff rfl source.isMethod).mpr get
  refine ⟨.operation operation, [other], visited, covered, looked, other,
    List.mem_singleton.mpr rfl, ?_, otherMessage.trans message.symm⟩
  rw [otherPlaced, placed, Operation.location, source.method]

/-- The course is the same after a value without references and names was set beside it. -/
theorem JudgesResponse.graft {value : Node}
    (judged : JudgesResponse settings vocabulary before finding course)
    (opened : before.isOpen way = true) (apart : ∀ other ∈ course.trail, ¬ way <+: other)
    (spares : SparesDeclarations before way)
    (kept : ∀ place ∈ course.asked, place <+: way →
      place ≠ way ∧ ∃ node, before.at? place = some node)
    (quiet : ∀ below inner, value.at? below = some inner →
      inner.get? "$ref" = none ∧ inner.get? "name" = none) :
    JudgesResponse settings vocabulary (Node.graft value way before) finding course := by
  obtain ⟨get, placed, message, collection, operationAt, token, counts, responds⟩ := judged
  have outside := apart _ List.mem_cons_self
  have scalar : ∀ name ∈ paginationNames, isScalarText name = true := by decide
  have apartDefinition := fun other among =>
    apart other (List.mem_cons_of_mem _ (List.mem_append_left _ among))
  have apartSchema := fun other among =>
    apart other (List.mem_cons_of_mem _ (List.mem_append_right _ among))
  obtain ⟨operationNow, operationReached, operationAlike⟩ :=
    Node.at?_graft_apart value outside operationAt
  obtain ⟨operation, rfl, _⟩ := operationAlike.of_object
  exact .intro get placed message collection operationReached token
    (counts.graft spares value opened outside apartDefinition (scalar _ token) quiet)
    (responds.graft spares.references apartSchema
      (fun mediaType preferred => kept _ (List.mem_map.mpr ⟨mediaType, preferred, rfl⟩)) value)

/-! ## Its judgement -/

/-- The proposed field is no reference and declares no name. -/
theorem quiet_nextTokenSchema {below : List Part} {inner : Node}
    (held : nextTokenSchema.at? below = some inner) :
    inner.get? "$ref" = none ∧ inner.get? "name" = none := by
  cases below with
  | nil =>
      cases held
      exact ⟨rfl, rfl⟩
  | cons part rest =>
      obtain ⟨child, stepped, held⟩ := Option.bind_eq_some_iff.mp held
      have scalar : child.members? = none ∧ child.items? = none := by
        cases part with
        | name name =>
            have among := Members.mem_of_lookup (show Members.get? _ name = some child from stepped)
            simp only [Members.ofFields, List.map_cons, List.map_nil, List.mem_cons,
              List.not_mem_nil, or_false] at among
            rcases among with same | same <;> cases same <;> exact ⟨rfl, rfl⟩
        | position index => cases index <;> cases stepped
      simp only [Node.at?_scalar scalar.1 scalar.2 held, Node.get?, scalar.1, Option.bind_none,
        and_self]

theorem LacksNextToken.absent (lacks : LacksNextToken document place) :
    document.at? (place ++ ["properties", "next_page_token"].map .name) = none := by
  obtain ⟨schema, found, lacking⟩ := lacks
  rw [Option.eq_none_iff_forall_ne_some]
  intro node reached
  have below : document.at? (place ++ [.name "properties"] ++ [.name "next_page_token"]) =
      some node := by simpa using reached
  obtain ⟨properties, propertiesAt, held⟩ := Node.exists_object_of_member below
  rw [Node.at?_member found] at propertiesAt
  rw [show Members.get? schema "properties" = _ from propertiesAt, Node.optional_of_get? held,
    mentionsAny_object, nextTokenNames, List.any_cons, Members.has, held] at lacking
  cases lacking

/-- A schema that the field was set in does not lack it. -/
theorem not_lacksNextToken_of_set (lacks : LacksNextToken document place)
    (opened : document.isOpen (place ++ ["properties", "next_page_token"].map .name) = true) :
    ¬ LacksNextToken (Node.graft nextTokenSchema
      (place ++ ["properties", "next_page_token"].map .name) document) place := by
  obtain ⟨schema, found, _⟩ := lacks
  rintro ⟨later, reached, lacking⟩
  rw [Node.isOpen_append found] at opened
  have below : (((Node.object schema).part? (.name "properties")).getD (.object [])).isOpen
      [.name "next_page_token"] = true := by
    rw [List.map_cons, Node.isOpen, Bool.and_eq_true] at opened
    exact opened.2
  obtain ⟨properties, _, written⟩ := Node.graft_name_of_isOpen nextTokenSchema below
  rw [Node.at?_graft_append found, List.map_cons, Node.graft_cons, List.map_cons, List.map_nil,
    written] at reached
  cases reached
  rw [Members.get?_put_self, Node.optional_of_get? Members.get?_put_self, mentionsAny_object,
    nextTokenNames, List.any_cons, Members.has, Members.get?_put_self] at lacking
  cases lacking

theorem responseNextToken_judges (settings : Settings) (vocabulary : Vocabulary) :
    JudgesDefinitions responseNextToken settings vocabulary ["properties", "next_page_token"]
      nextTokenSchema (JudgesResponse settings vocabulary) LacksNextToken where
  sound := judgesResponse_of_look
  complete derived named judged lacks := judged.look derived named lacks
  unique := by
    rintro document finding other _ _ ⟨_, _, _, _, _, _, _, responds⟩
      ⟨_, _, _, _, _, _, _, respondsToo⟩ _ operation
    cases operation
    exact responds.unique respondsToo
  starts := by
    rintro document finding _ ⟨get, placed, message, _, operationAt, _⟩
    have regular : ¬ finding.SaysFailed :=
      Finding.not_saysFailed (message.trans (String.append_empty ..).symm) (by decide)
    exact ⟨isMethodKey_of_get get, placed, regular, List.mem_cons_self, _, operationAt⟩
  ends := by
    rintro document finding _ ⟨_, _, _, _, operationAt, _, counts, responds⟩
    refine ⟨List.mem_cons_of_mem _ (List.mem_append_right _ responds.last_mem), ?_⟩
    intro place among
    rcases List.mem_cons.mp among with rfl | among
    · exact ⟨_, operationAt⟩
    · rcases List.mem_append.mp among with among | among
      · exact counts.declares.resolves.exists_at? among
      · exact responds.exists_at? among
  graft judged opened apart spares kept :=
    judged.graft opened apart spares kept fun _ _ held => quiet_nextTokenSchema held
  stillLacks := by
    rintro document finding _ way ⟨_⟩ ⟨schema, found, lacking⟩ outside beside
    obtain ⟨later, reached, kept⟩ := Node.get?_graft_beside found outside beside
    exact ⟨later, reached, by rwa [kept]⟩
  amended := not_lacksNextToken_of_set
  absent := LacksNextToken.absent
  asks := by
    rintro document finding _ ⟨_⟩ place among
    obtain ⟨mediaType, preferred, rfl⟩ := List.mem_map.mp among
    have unlike : ∀ name ∈ preferredMediaTypes, name ∉ ["properties", "next_page_token"] := by
      decide
    exact ⟨_, mediaType, rfl, unlike mediaType preferred⟩
  undeclared := by decide
  unlike := by decide
  some_member := by decide
  named := by decide

end ApiReview
