import ApiReview.Proofs.Rules.JudgedDefinitions
import ApiReview.Proofs.Spec.ResponseSchemas
import ApiReview.Rules.ListMethods

/-! The bound of page sizes. The rule judges the schema at the end of all references
of a page size parameter; the address of its fix is that of the parameter's schema,
or of the target of that schema's first reference. -/

set_option autoImplicit false

namespace ApiReview

open ApiReview.Text Rules

variable {document before : Node} {context : RuleContext} {operation : Operation}
  {parameter : Parameter} {report : List Finding} {finding : Finding} {course : Course}
  {declared schema : Members} {name key address : String} {place way : List Part}

/-- The message about a page size parameter without a bound. -/
def maximumMessage (name : String) : String := "Page size parameter '" ++ name ++ "' has no maximum"

/-- The course of the rule from an operation, over the declaration of a page size parameter that
counts, to the schema of that parameter. -/
inductive JudgesPageSize (document : Node) (finding : Finding) : Course → Prop
  | intro {path key name : String} {place definition judged : List Part}
      {toDefinition toSchema : List (List Part)} {operation declared : Members} :
      lower key = "get" → finding.path = upper key ++ " " ++ path →
      finding.message = maximumMessage name → name ∈ pageSizeNames →
      document.at? [.name "paths", .name path, .name key] = some (.object operation) →
      LastQuery document path key name place toDefinition definition →
      document.at? (definition ++ [.name "schema"]) = some (.object declared) →
      Resolves document referenceLimit (definition ++ [.name "schema"]) toSchema judged →
      JudgesPageSize document finding ⟨path, key,
        [.name "paths", .name path, .name key] :: (toDefinition ++ toSchema), [], judged,
        judged ++ [.name "maximum"]⟩

/-- A place holds a schema without a maximum. -/
def LacksMaximum (document : Node) (place : List Part) : Prop :=
  ∃ schema, document.at? place = some (.object schema) ∧ Members.has schema "maximum" = false

/-! ## The rule -/

theorem lookForMaximum_ok (looked : lookForMaximum context operation parameter = .ok report)
    (among : finding ∈ report) :
    ∃ declared schema address, parameter.schema? = some declared ∧
      parameter.name ∈ pageSizeNames ∧
      resolve? context.facts.document referenceLimit (.object declared) =
        .ok (some (.object schema)) ∧
      Members.has schema "maximum" = false ∧
      schemaAddress parameter declared = .ok (some address) ∧
      finding.path = operation.location ∧ finding.message = maximumMessage parameter.name ∧
      finding.fix? = some (Fix.setSchemaConstraint address "maximum" (.int maximumPageSize)
        (Members.ofFields [("parameter", .str parameter.name)])) := by
  rw [lookForMaximum] at looked
  split at looked
  · cases looked
    cases among
  rename_i declared read
  split at looked
  · cases looked
    cases among
  rename_i listed
  obtain ⟨target?, resolved, looked⟩ := bind_ok looked
  dsimp only at looked
  split at looked
  · cases looked
    cases among
  rename_i schema ends
  split at looked
  · cases looked
    cases among
  rename_i lacking
  obtain ⟨address?, addressed, looked⟩ := bind_ok looked
  cases address? with
  | none =>
      cases looked
      cases among
  | some address =>
      cases looked
      rw [List.mem_singleton.mp among]
      obtain ⟨target, rfl, shape⟩ := Option.bind_eq_some_iff.mp ends
      cases target with
      | object members =>
          cases shape
          refine ⟨declared, schema, address, read, ?_, resolved, by simpa using lacking, addressed,
            rfl, rfl, rfl⟩
          simpa using listed
      | _ => cases shape

theorem lookForMaximum_of_lacking (read : parameter.schema? = some declared)
    (listed : parameter.name ∈ pageSizeNames)
    (resolved : resolve? context.facts.document referenceLimit (.object declared) =
      .ok (some (.object schema)))
    (lacking : Members.has schema "maximum" = false)
    (addressed : schemaAddress parameter declared = .ok (some address)) :
    ∃ finding, lookForMaximum context operation parameter = .ok [finding] ∧
      finding.path = operation.location ∧ finding.message = maximumMessage parameter.name := by
  simp only [lookForMaximum, read, List.contains_iff_mem.mpr listed, resolved, lacking, addressed,
    bind, Except.bind, Option.bind_some, Node.members?, Bool.not_true, Bool.false_eq_true, if_false]
  exact ⟨_, rfl, rfl, rfl⟩

theorem isMethodKey_of_get (get : lower key = "get") : isMethodKey key = true := by
  rw [isMethodKey, get]
  decide

/-- A rule on reading operations covers those under the method get, in any letter case. -/
theorem RuleHeader.coversMethod_iff {header : RuleHeader} (reads : header.methods? = some ["GET"])
    (method : isMethodKey key = true) :
    header.coversMethod (upper key) = true ↔ lower key = "get" := by
  have only : ∀ method ∈ httpMethods,
      (["GET"].contains (upper (upper method)) = true ↔ method = "get") := by decide
  rw [RuleHeader.coversMethod, reads, Option.all_some, ← upper_lower_of_isMethodKey method]
  exact only (lower key) (List.contains_iff_mem.mp method)

/-! ## Addresses -/

theorem isAddressText_of_parameter? {item : Node} {path : String} {method? : Option String}
    (read : parameter? document path method? item = .ok (some parameter))
    (word : ∀ method ∈ method?, Address.isPlainName (lower method).toList = true) :
    Address.IsAddressText parameter.address := by
  obtain ⟨members, nameNode, _, _, _, _, _, address⟩ := parameter?_ok read
  rw [address]
  cases referred : ((Members.get? members "$ref").bind Node.text?).bind fun reference =>
      (Address.ofReference reference).toOption with
  | none => exact .ofParameter word path _ _
  | some text =>
      obtain ⟨reference, _, built⟩ := Option.bind_eq_some_iff.mp referred
      cases target : Address.ofReference reference with
      | error error =>
          rw [target] at built
          cases built
      | ok found =>
          rw [target] at built
          cases built
          exact .ofReference target

theorem isAddressText_of_schemaAddress
    (definition : Address.IsAddressText parameter.address)
    (addressed : schemaAddress parameter declared = .ok (some address)) :
    Address.IsAddressText address := by
  rw [schemaAddress] at addressed
  split at addressed
  · exact referenceAddress?_ok addressed
  · cases addressed
    exact definition.schema

theorem Resolves.schemaAddress_eq {limit : Nat} {last : List Part} {trail : List (List Part)}
    (resolves : Resolves document limit place trail last)
    (found : document.at? place = some (.object declared)) (parameter : Parameter) :
    ∃ address, schemaAddress parameter declared = .ok (some address) := by
  rw [schemaAddress]
  cases held : Members.get? declared "$ref" with
  | none => exact ⟨_, rfl⟩
  | some reference => exact resolves.referenceAddress?_eq found held

/-- The fix of the rule sets the maximum of the schema at its address. -/
theorem setsBelow_setSchemaConstraint (text : Address.IsAddressText address) (value : Node)
    (target : Members) :
    SetsBelow ["maximum"] value (Fix.setSchemaConstraint address "maximum" value target) := by
  have behind : ∀ steps, Address.IsWritten address steps →
      Address.IsWritten (address ++ "." ++ "maximum") (steps ++ [.bare "maximum"]) := by
    intro steps written
    rw [String.append_assoc]
    exact written.bare rfl
  exact .intro text behind (by decide) rfl rfl

/-! ## Its course -/

theorem location_of_coversLocation {location : Node}
    (covered : maxPageSize.coversLocation location = true) : location = .str "query" := by
  obtain ⟨text, held, listed⟩ := (Option.any_eq_true _ _).mp
    (show location.text?.any ["query"].contains = true from covered)
  cases location with
  | str found =>
      cases held
      rw [List.mem_singleton.mp (List.contains_iff_mem.mp listed)]
  | _ => cases held

/-- What the rule reports is that a schema at the end of its course lacks a maximum. -/
theorem judgesPageSize_of_look {facts : ReviewFacts} {settings : Settings}
    {vocabulary : Vocabulary} {element : Element}
    (derived : ReviewFacts.ofSpec document settings vocabulary = .ok facts)
    (named : document.isNamed = true) (visited : .ok element ∈ facts.visits maxPageSize.kind)
    (covered : maxPageSize.covers element = true)
    (looked : maxPageSize.look facts element = .ok report) (among : finding ∈ report) :
    ∃ course, JudgesPageSize document finding course ∧ LacksMaximum document course.judged ∧
      ∀ fix, finding.fix? = some fix → SetsBelow ["maximum"] (.int maximumPageSize) fix := by
  obtain ⟨rfl, _, read⟩ := ReviewFacts.ofSpec_ok derived
  obtain ⟨operation, listed, inside⟩ := List.mem_flatMap.mp visited
  obtain ⟨parameter, listedToo, shape⟩ := List.mem_map.mp inside
  cases shape
  obtain ⟨pathKey, key, source⟩ := mem_operationsOf read listed
  obtain ⟨coversMethod, coversLocation⟩ := Bool.and_eq_true_iff.mp covered
  rw [source.method] at coversMethod
  have get := (RuleHeader.coversMethod_iff rfl source.isMethod).mp coversMethod
  obtain ⟨declared, schema, address, defined, size, resolved, lacking, addressed, placed, message,
    fixes⟩ := lookForMaximum_ok looked among
  obtain ⟨place, toDefinition, definition, counts, definitionAt⟩ :=
    exists_lastQuery source named listedToo ⟨rfl, location_of_coversLocation coversLocation⟩
  have schemaAt := Node.at?_member definitionAt "schema"
  obtain ⟨schemaNode, held, object⟩ := Option.bind_eq_some_iff.mp defined
  cases schemaNode with
  | object members =>
      cases object
      rw [show (Node.object parameter.definition).get? "schema" = some (.object declared) from held]
        at schemaAt
      obtain ⟨toSchema, judged, resolves, ends⟩ := exists_resolves schemaAt resolved
      have location : finding.path = upper key ++ " " ++ operation.path := by
        rw [placed, Operation.location, source.method]
      refine ⟨_, .intro get location message size (source.definitionAt named) counts schemaAt
        resolves, ⟨schema, ends, lacking⟩, fun fix carried => ?_⟩
      rw [fixes] at carried
      cases carried
      obtain ⟨_, _, item, method?, _, own, parameterRead⟩ :=
        exists_declaration source named listedToo
      refine setsBelow_setSchemaConstraint (isAddressText_of_schemaAddress
        (isAddressText_of_parameter? parameterRead ?_) addressed) _ _
      rintro method present
      rcases own with rfl | rfl
      · cases present
      · cases present
        rw [lower_lower_of_isMethodKey source.isMethod]
        exact (Address.isPlainName_lower source.isMethod).1
  | _ => cases object

/-- A schema without a maximum at the end of the course is reported. -/
theorem JudgesPageSize.look {facts : ReviewFacts} {settings : Settings} {vocabulary : Vocabulary}
    (judged : JudgesPageSize document finding course)
    (derived : ReviewFacts.ofSpec document settings vocabulary = .ok facts)
    (named : document.isNamed = true) (lacks : LacksMaximum document course.judged) :
    ∃ element report, .ok element ∈ facts.visits maxPageSize.kind ∧
      maxPageSize.covers element = true ∧ maxPageSize.look facts element = .ok report ∧
      ∃ other ∈ report, other.path = finding.path ∧ other.message = finding.message := by
  obtain ⟨rfl, _, read⟩ := ReviewFacts.ofSpec_ok derived
  obtain ⟨get, placed, message, size, operationAt, counts, schemaAt, resolves⟩ := judged
  rename_i path key name place definition judged toDefinition toSchema _ declared
  obtain ⟨schema, ends, lacking⟩ := lacks
  obtain ⟨operation, listed, source, rfl, _⟩ :=
    exists_operation_of_at? read operationAt (isMethodKey_of_get get)
  obtain ⟨parameter, alone, definitionAt⟩ := counts.onlyAt source named
  have defined : parameter.schema? = some declared := by
    rw [Node.at?_member definitionAt] at schemaAt
    rw [Parameter.schema?, show Members.get? parameter.definition "schema" = _ from schemaAt]
    rfl
  obtain ⟨address, addressed⟩ := resolves.schemaAddress_eq schemaAt parameter
  have reports : ∃ other, lookForMaximum ⟨facts, maxPageSize.toRuleHeader⟩ operation parameter =
      .ok [other] ∧ other.path = operation.location ∧
        other.message = maximumMessage parameter.name :=
    lookForMaximum_of_lacking defined (alone.placed.1.symm ▸ size)
      (resolves.resolve?_eq schemaAt ends) lacking addressed
  obtain ⟨other, looked, otherPlaced, otherMessage⟩ := reports
  have visited : .ok (.parameter operation parameter) ∈ facts.visits maxPageSize.kind :=
    List.mem_flatMap.mpr ⟨operation, listed, List.mem_map.mpr ⟨parameter, alone.among, rfl⟩⟩
  have coversMethod : maxPageSize.coversMethod operation.method = true := by
    rw [source.method]
    exact (RuleHeader.coversMethod_iff rfl source.isMethod).mpr get
  have coversLocation : maxPageSize.coversLocation parameter.location = true := by
    rw [alone.placed.2]
    rfl
  refine ⟨.parameter operation parameter, [other], visited, ?_, looked, other,
    List.mem_singleton.mpr rfl, ?_, ?_⟩
  · rw [Rule.covers, coversMethod, coversLocation]
    rfl
  · rw [otherPlaced, placed, Operation.location, source.method]
  · rw [otherMessage, message, alone.placed.1]

/-- The course is the same after a value without references and names was set beside it. -/
theorem JudgesPageSize.graft {value : Node} (judged : JudgesPageSize before finding course)
    (opened : before.isOpen way = true) (apart : ∀ other ∈ course.trail, ¬ way <+: other)
    (spares : SparesDeclarations before way)
    (quiet : ∀ below inner, value.at? below = some inner →
      inner.get? "$ref" = none ∧ inner.get? "name" = none) :
    JudgesPageSize (Node.graft value way before) finding course := by
  obtain ⟨get, placed, message, size, operationAt, counts, schemaAt, resolves⟩ := judged
  have outside := apart _ List.mem_cons_self
  have scalar : ∀ name ∈ pageSizeNames, isScalarText name = true := by decide
  have apartDefinition := fun other among =>
    apart other (List.mem_cons_of_mem _ (List.mem_append_left _ among))
  have apartSchema := fun other among =>
    apart other (List.mem_cons_of_mem _ (List.mem_append_right _ among))
  obtain ⟨operationNow, operationReached, operationAlike⟩ :=
    Node.at?_graft_apart value outside operationAt
  obtain ⟨operation, rfl, _⟩ := operationAlike.of_object
  obtain ⟨schemaNow, schemaReached, schemaAlike⟩ :=
    Node.at?_graft_apart value (apartSchema _ resolves.head_mem) schemaAt
  obtain ⟨schema, rfl, _⟩ := schemaAlike.of_object
  exact .intro get placed message size operationReached
    (counts.graft spares value opened outside apartDefinition (scalar _ size) quiet) schemaReached
    (resolves.graft spares.references apartSchema value)

theorem maximumMessage_injective {first second : String}
    (same : maximumMessage first = maximumMessage second) : first = second :=
  (String.append_right_inj _).mp ((String.append_left_inj _).mp same)

theorem maxPageSize_judges (settings : Settings) (vocabulary : Vocabulary) :
    JudgesDefinitions maxPageSize settings vocabulary ["maximum"] (.int maximumPageSize)
      JudgesPageSize LacksMaximum where
  sound := judgesPageSize_of_look
  complete derived named judged lacks := judged.look derived named lacks
  unique := by
    rintro document finding other _ _ ⟨_, _, message, _, _, counts, _, resolves⟩
      ⟨_, _, messageToo, _, _, countsToo, _, resolvesToo⟩ same operation
    rw [message, messageToo] at same
    cases maximumMessage_injective same
    cases operation
    cases counts.unique countsToo
    exact (resolves.unique resolvesToo).2
  starts := by
    rintro document finding _ ⟨get, placed, message, _, operationAt, _⟩
    have regular : ¬ finding.SaysFailed :=
      Finding.not_saysFailed (message.trans (String.append_assoc ..)) (by decide)
    exact ⟨isMethodKey_of_get get, placed, regular, List.mem_cons_self, _, operationAt⟩
  ends := by
    rintro document finding _ ⟨_, _, _, _, operationAt, counts, _, resolves⟩
    refine ⟨List.mem_cons_of_mem _ (List.mem_append_right _ resolves.last_mem), ?_⟩
    intro place among
    rcases List.mem_cons.mp among with rfl | among
    · exact ⟨_, operationAt⟩
    · rcases List.mem_append.mp among with among | among
      · exact counts.declares.resolves.exists_at? among
      · exact resolves.exists_at? among
  graft judged opened apart spares _ := by
    refine judged.graft opened apart spares fun below inner held => ?_
    rw [Node.at?_scalar rfl rfl held]
    exact ⟨rfl, rfl⟩
  stillLacks := by
    rintro document finding _ way ⟨_⟩ ⟨schema, found, lacking⟩ outside beside
    obtain ⟨later, reached, kept⟩ := Node.get?_graft_beside found outside beside
    exact ⟨later, reached, by rwa [Members.has, kept]⟩
  amended := by
    rintro document place ⟨schema, found, _⟩ _ ⟨later, reached, lacking⟩
    have put : Node.graft (.int maximumPageSize) (["maximum"].map .name) (.object schema) =
        .object (Members.put (.str "maximum") (.int maximumPageSize) schema) := rfl
    rw [Node.at?_graft_append found, put] at reached
    cases reached
    rw [Members.has, Members.get?_put_self] at lacking
    cases lacking
  absent := by
    rintro document place ⟨schema, found, lacking⟩
    have missing : Members.get? schema "maximum" = none :=
      Members.get?_eq_none_iff.mpr (Members.has_eq_false_iff.mp lacking)
    exact (Node.at?_member found "maximum").trans missing
  asks := by
    rintro document finding _ ⟨_⟩ place among
    cases among
  undeclared := by decide
  unlike := by decide
  some_member := by decide
  named := rfl

end ApiReview
