import ApiReview.Proofs.Rules.Conduct
import ApiReview.Proofs.Rules.ConsistentCasing
import ApiReview.Proofs.Spec.PathOrder

/-! What rules report about documents that differ in the order of their paths. All
that a rule reads beside its element is the same in both documents, so it looks at
the same elements in another order and reports the same of each; only the rule on
one casing style asks which of the paths comes first. -/

set_option autoImplicit false

namespace ApiReview

open Rules

/-! ## Response schemas -/

/-- Definitions with the same look-ups, at the same address. -/
def SameDefinition (first second : Members × String) : Prop :=
  first.1.SameLookups second.1 ∧ first.2 = second.2

section Schemas

variable {first second firstPaths secondPaths : Members}
  (reordered : Reordered first second firstPaths secondPaths)

include reordered

theorem agree_resolveWithAddress (node : Node) (address : String) :
    Agree (Option.Rel SameDefinition) (resolveWithAddress (.object first) node address)
      (resolveWithAddress (.object second) node address) := by
  unfold resolveWithAddress
  split
  · cases node.members? with
    | none => exact .ok .none
    | some members => exact .ok (.some ⟨fun _ => rfl, rfl⟩)
  · refine Agree.bind_same fun address? => ?_
    refine (reordered.resolve? referenceLimit (.same node)).bind fun target? other? related => ?_
    have definitions := Node.Resembles.option_members? related
    generalize target?.bind Node.members? = here, other?.bind Node.members? = there at definitions ⊢
    cases definitions with
    | none => exact .ok .none
    | some same =>
        cases address? with
        | none => exact .ok .none
        | some address => exact .ok (.some ⟨same, rfl⟩)

theorem agree_responseSchema? (path method : String) (definition pathItem : Members)
    (parameters others : List Parameter) (code : String) :
    Agree (Option.Rel SameDefinition)
      (responseSchema? (.object first) ⟨path, method, definition, pathItem, parameters⟩ code)
      (responseSchema? (.object second) ⟨path, method, definition, pathItem, others⟩ code) := by
  unfold responseSchema?
  refine Agree.bind_same fun response? => ?_
  cases response? with
  | none => exact .ok .none
  | some response =>
      refine (agree_resolveWithAddress reordered response _).bind fun resolved? other? related => ?_
      cases related with
      | none => exact .ok .none
      | some resembles =>
          rename_i resolved other
          obtain ⟨members, address⟩ := resolved
          obtain ⟨others, _⟩ := other
          obtain ⟨same, rfl⟩ := resembles
          simp only [same "content"]
          refine Agree.bind_same fun mediaType? => ?_
          cases mediaType? with
          | none => exact .ok .none
          | some mediaType =>
              refine Agree.bind_same fun content => Agree.bind_same fun media => ?_
              split
              · exact .ok .none
              · exact agree_resolveWithAddress reordered _ _

end Schemas

/-! ## Facts -/

/-- The facts of two documents that differ in the order of their paths. -/
structure ReviewFacts.Resembles (first second : ReviewFacts) (firstPaths secondPaths : Members) :
    Prop where
  settings : first.settings = second.settings
  vocabulary : first.vocabulary = second.vocabulary
  singletons : ∀ path, path ∈ first.singletons ↔ path ∈ second.singletons
  operations : PermutedBy Operation.Resembles first.operations second.operations
  reordered : Reordered first.spec second.spec firstPaths secondPaths

theorem ReviewFacts.ofSpec_reordered {first second firstPaths secondPaths : Members}
    (reordered : Reordered first second firstPaths secondPaths) {settings : Settings}
    {vocabulary : Vocabulary} {facts : ReviewFacts}
    (derived : ofSpec (.object first) settings vocabulary = .ok facts) :
    ∃ others, ofSpec (.object second) settings vocabulary = .ok others ∧
      facts.Resembles others firstPaths secondPaths := by
  obtain ⟨singletons, inferred, derived⟩ := bind_ok derived
  obtain ⟨operations, read, derived⟩ := bind_ok derived
  cases derived
  obtain ⟨otherSingletons, inferredThere, same⟩ := singletons_reordered reordered inferred
  obtain ⟨otherOperations, readThere, permuted⟩ := operationsOf_reordered reordered read
  refine ⟨⟨second, settings, vocabulary, otherSingletons, otherOperations⟩, ?_, ?_⟩
  · rw [ofSpec, inferredThere, readThere]
    rfl
  · exact ⟨rfl, rfl, same, permuted, reordered⟩

/-- Elements that are the same but for the order of members of parameters' definitions. -/
inductive Element.Resembles : Element → Element → Prop where
  | spec : Resembles .spec .spec
  | path (path : String) (item : Node) : Resembles (.path path item) (.path path item)
  | operation {first second : Operation} :
      first.Resembles second → Resembles (.operation first) (.operation second)
  | parameter {first second : Operation} {declared other : Parameter} :
      first.Resembles second → declared.Resembles other →
      Resembles (.parameter first declared) (.parameter second other)
  | schema (name : String) (schema : Node) : Resembles (.schema name schema) (.schema name schema)
  | property (schemaName name : String) (property : Node) :
      Resembles (.property schemaName name property) (.property schemaName name property)

theorem Element.Resembles.refl (element : Element) : element.Resembles element := by
  cases element with
  | operation operation => exact .operation (.refl operation)
  | parameter operation parameter => exact .parameter (.refl operation) (.refl parameter)
  | _ => constructor

theorem Element.Resembles.kind {first second : Element} (resembles : first.Resembles second) :
    first.kind = second.kind := by
  cases resembles <;> rfl

theorem Element.Resembles.location {first second : Element} (resembles : first.Resembles second) :
    first.location = second.location := by
  cases resembles with
  | operation same =>
      cases same
      rfl
  | parameter same declared =>
      cases same
      cases declared
      rfl
  | _ => rfl

theorem Rule.covers_of_resembles {first second : Element} (rule : Rule)
    (resembles : first.Resembles second) : rule.covers first = rule.covers second := by
  cases resembles with
  | operation same =>
      cases same
      rfl
  | parameter same declared =>
      cases same
      cases declared
      rfl
  | _ => rfl

section Facts

variable {first second : ReviewFacts} {firstPaths secondPaths : Members}
  (resembles : first.Resembles second firstPaths secondPaths)

include resembles

theorem sharedSchemas_resembles : sharedSchemas first.spec = sharedSchemas second.spec := by
  unfold sharedSchemas
  rw [resembles.reordered.rest "components" (by decide)]

/-- The elements of each kind are the same in some order. -/
theorem visits_resembles (kind : RuleKind) :
    PermutedBy (Agree Element.Resembles) (first.visits kind) (second.visits kind) := by
  have schemas : first.schemas = second.schemas := by
    rw [ReviewFacts.schemas, sharedSchemas_resembles resembles, ReviewFacts.schemas]
  have same_visits {visits others : List Visit} (permuted : visits.Perm others) :
      PermutedBy (Agree Element.Resembles) visits others :=
    .of_perm (Agree.refl Element.Resembles.refl) permuted
  cases kind with
  | spec => exact same_visits (.refl _)
  | path =>
      refine same_visits ((List.Perm.filter _ ?_).map _)
      rw [ReviewFacts.paths, resembles.reordered.pathItems, ReviewFacts.paths,
        resembles.reordered.symm.pathItems]
      exact resembles.reordered.permuted.map _
  | operation => exact resembles.operations.map fun _ _ same => .ok (.operation same)
  | parameter =>
      refine resembles.operations.flatMap fun operation other same => ?_
      cases same with
      | mk path method definition pathItem aligned =>
          exact List.rel_map (fun _ _ declared => .ok (.parameter (.mk _ _ _ _ aligned) declared))
            aligned
  | schema | property =>
      simp only [ReviewFacts.visits, schemas]
      exact same_visits (.refl _)

end Facts

/-! ## Looks -/

theorem any_of_mem_iff {Entry : Type} {first second : List Entry}
    (same : ∀ entry, entry ∈ first ↔ entry ∈ second) (test : Entry → Bool) :
    first.any test = second.any test := by
  rw [Bool.eq_iff_iff, List.any_eq_true, List.any_eq_true]
  simp only [same]

theorem contains_of_mem_iff {first second : List String}
    (same : ∀ entry, entry ∈ first ↔ entry ∈ second) (entry : String) :
    first.contains entry = second.contains entry := by
  rw [Bool.eq_iff_iff, List.contains_iff_mem, List.contains_iff_mem, same]

theorem Operation.Resembles.hasFilter {operation other : Operation}
    (same : operation.Resembles other) : hasFilter operation = hasFilter other := by
  cases same with
  | mk path method definition pathItem aligned =>
      unfold Rules.hasFilter
      simp only [List.any_filter]
      congr 1 <;>
      · refine any_of_forall₂ aligned fun _ _ declared => ?_
        cases declared
        rfl

theorem Operation.Resembles.hasQueryParameter {operation other : Operation}
    (same : operation.Resembles other) (names : List String) :
    operation.hasQueryParameter names = other.hasQueryParameter names := by
  cases same with
  | mk path method definition pathItem aligned =>
      have as_any (declared : List Parameter) (test : Parameter → Bool) :
          (declared.find? test).isSome = declared.any test := by
        rw [Bool.eq_iff_iff, List.find?_isSome, List.any_eq_true]
      unfold Operation.hasQueryParameter Operation.findParameter?
      rw [as_any, as_any]
      refine any_of_forall₂ aligned fun _ _ declared => ?_
      cases declared
      rfl

theorem Operation.Resembles.hasIdempotencyHeader {operation other : Operation}
    (same : operation.Resembles other) :
    hasIdempotencyHeader operation = hasIdempotencyHeader other := by
  cases same with
  | mk path method definition pathItem aligned =>
      refine any_of_forall₂ aligned fun _ _ declared => ?_
      cases declared
      rfl

theorem Operation.Resembles.path {operation other : Operation} (same : operation.Resembles other) :
    operation.path = other.path := by
  cases same
  rfl

section Looks

variable {first second : ReviewFacts} {firstPaths secondPaths : Members}
  (resembles : first.Resembles second firstPaths secondPaths) (header : RuleHeader)

include resembles

theorem isCollection_resembles (path : String) : first.isCollection path = second.isCollection path := by
  rw [ReviewFacts.isCollection, resembles.vocabulary, resembles.settings, ReviewFacts.isCollection]

theorem isExempt_resembles (path segment : String) :
    isExempt first path segment = isExempt second path segment := by
  unfold isExempt Segment.isCustomMethod
  simp only [resembles.settings, contains_of_mem_iff resembles.singletons]

theorem isSingularCollection_resembles (path : String) :
    isSingularCollection first path = isSingularCollection second path := by
  funext position segment
  unfold isSingularCollection Path.isUnderSingleton
  rw [isExempt_resembles resembles, resembles.vocabulary, contains_of_mem_iff resembles.singletons,
    any_of_mem_iff resembles.singletons]

theorem lookForSingulars_resembles (path : String) :
    lookForSingulars ⟨first, header⟩ path = lookForSingulars ⟨second, header⟩ path := by
  unfold lookForSingulars
  simp only [isSingularCollection_resembles resembles, resembles.vocabulary]
  rfl

theorem lookForVerbs_resembles (path : String) :
    lookForVerbs ⟨first, header⟩ path = lookForVerbs ⟨second, header⟩ path := by
  unfold lookForVerbs
  simp only [isExempt_resembles resembles, resembles.vocabulary]
  rfl

theorem idDefinitions?_resembles (list : String) (position : Nat) (items : List Node) :
    idDefinitions? first.document list position items =
      idDefinitions? second.document list position items := by
  induction items generalizing position with
  | nil => rfl
  | cons item items ih =>
      cases item with
      | object members =>
          unfold idDefinitions?
          simp only [ih]
          split
          · refine (resembles.reordered.resolve? referenceLimit (.same _)).bind_eq
              fun target? other? related => ?_
            have definitions := Node.Resembles.option_members? related
            generalize target?.bind Node.members? = here, other?.bind Node.members? = there
              at definitions ⊢
            cases definitions with
            | none => rfl
            | @some here there same =>
                have judged : declaresId here = declaresId there := by
                  rw [declaresId, same "name", same "in", declaresId]
                simp only [Option.any_some, judged]
          · rfl
      | _ => exact ih (position + 1)

theorem allIdDefinitions?_resembles (path : String) (levels : List (Option String × Members)) :
    allIdDefinitions? first.document path levels = allIdDefinitions? second.document path levels := by
  induction levels with
  | nil => rfl
  | cons level levels ih =>
      simp only [allIdDefinitions?, idDefinitions?_resembles resembles, ih]

theorem lookForGenericIds_resembles (path : String) (pathItem : Node) :
    lookForGenericIds ⟨first, header⟩ path pathItem =
      lookForGenericIds ⟨second, header⟩ path pathItem := by
  unfold lookForGenericIds ownershipFix?
  simp only [allIdDefinitions?_resembles resembles, resembles.vocabulary]
  rfl

theorem lookForPatch_resembles (path : String) (pathItem : Node) :
    lookForPatch ⟨first, header⟩ path pathItem = lookForPatch ⟨second, header⟩ path pathItem := by
  unfold lookForPatch
  simp only [resembles.settings]
  rfl

theorem errorSchemaNames_resembles : errorSchemaNames first = errorSchemaNames second := by
  unfold errorSchemaNames
  rw [sharedSchemas_resembles resembles]

theorem lookForErrorSchema_resembles :
    lookForErrorSchema ⟨first, header⟩ = lookForErrorSchema ⟨second, header⟩ := by
  unfold lookForErrorSchema
  simp only [errorSchemaNames_resembles resembles]
  rfl

section Operations

variable {operation other : Operation} (same : operation.Resembles other)

include same

omit resembles in
theorem missingParameters_resembles (message suggestion : String) (parameters : List Node) :
    missingParameters ⟨first, header⟩ operation message suggestion parameters =
      missingParameters ⟨second, header⟩ other message suggestion parameters := by
  cases same
  rfl

theorem isCollection_operation :
    first.isCollection operation.path = second.isCollection other.path := by
  cases same
  exact isCollection_resembles resembles _

theorem lookForFiltering_resembles :
    lookForFiltering ⟨first, header⟩ operation = lookForFiltering ⟨second, header⟩ other := by
  unfold lookForFiltering
  rw [isCollection_operation resembles same, same.hasFilter,
    missingParameters_resembles header same]

theorem lookForOrdering_resembles :
    lookForOrdering ⟨first, header⟩ operation = lookForOrdering ⟨second, header⟩ other := by
  unfold lookForOrdering
  rw [isCollection_operation resembles same, same.hasQueryParameter,
    missingParameters_resembles header same]

theorem lookForPagination_resembles :
    lookForPagination ⟨first, header⟩ operation = lookForPagination ⟨second, header⟩ other := by
  unfold lookForPagination
  rw [isCollection_operation resembles same, same.hasQueryParameter, same.hasQueryParameter,
    missingParameters_resembles header same]

omit resembles in
theorem lookForIdempotencyKey_resembles :
    lookForIdempotencyKey ⟨first, header⟩ operation =
      lookForIdempotencyKey ⟨second, header⟩ other := by
  unfold lookForIdempotencyKey
  rw [same.hasIdempotencyHeader, same.path, missingParameters_resembles header same]

theorem lookForErrorResponses_resembles :
    lookForErrorResponses ⟨first, header⟩ operation =
      lookForErrorResponses ⟨second, header⟩ other := by
  unfold lookForErrorResponses
  simp only [errorSchemaNames_resembles resembles]
  cases same
  rfl

theorem lookForNextToken_resembles :
    lookForNextToken ⟨first, header⟩ operation = lookForNextToken ⟨second, header⟩ other := by
  unfold lookForNextToken
  rw [isCollection_operation resembles same, same.hasQueryParameter]
  split
  · rfl
  · cases same with
    | mk path method definition pathItem aligned =>
        refine (agree_responseSchema? resembles.reordered ..).bind_eq fun found? others? related => ?_
        cases related with
        | none => rfl
        | @some found others definitions =>
            obtain ⟨schema, address⟩ := found
            obtain ⟨schemaThere, _⟩ := others
            obtain ⟨looked, rfl⟩ := definitions
            simp only [looked "properties", looked "type", looked.has]
            rfl

theorem lookForMaximum_resembles {declared parameter : Parameter}
    (sameDeclared : declared.Resembles parameter) :
    lookForMaximum ⟨first, header⟩ operation declared =
      lookForMaximum ⟨second, header⟩ other parameter := by
  cases sameDeclared with
  | mk name location address reference? looked =>
      unfold lookForMaximum
      simp only [Parameter.schema?, looked "schema"]
      cases (Members.get? _ "schema").bind Node.members? with
      | none => rfl
      | some schema =>
        simp only
        split
        · rfl
        · refine (resembles.reordered.resolve? referenceLimit (.same _)).bind_eq
            fun target? other? related => ?_
          have definitions := Node.Resembles.option_members? related
          generalize target?.bind Node.members? = here, other?.bind Node.members? = there
            at definitions ⊢
          cases definitions with
          | none => rfl
          | some looked =>
              simp only [looked.has]
              cases same
              rfl

end Operations

/-- A built-in rule reports the same of an element, but for the rule on one casing style, which
looks at the document as a whole. -/
theorem look_resembles {rule : Rule} (listed : rule ∈ Registry.standard.all)
    (judged : rule.id ≠ consistentCasing.id) {element other : Element}
    (same : element.Resembles other) : rule.look first element = rule.look second other := by
  by_cases own : element.kind = rule.kind
  · -- the rules that `rfl` is enough for read nothing but the definition of their operation
    simp only [standard_all, List.mem_cons, List.not_mem_nil, or_false] at listed
    rcases listed with rfl | rfl | rfl | rfl | rfl | rfl | rfl | rfl | rfl | rfl | rfl | rfl | rfl |
      rfl | rfl | rfl | rfl <;> cases same <;> cases own
    · exact congrArg Except.ok (lookForSingulars_resembles resembles ..)
    · exact congrArg Except.ok (lookForVerbs_resembles resembles ..)
    · exact absurd rfl judged
    · exact lookForGenericIds_resembles resembles ..
    · rename_i same
      cases same
      rfl
    · exact lookForFiltering_resembles resembles _ ‹_›
    · exact lookForOrdering_resembles resembles _ ‹_›
    · rename_i same
      cases same
      rfl
    · exact lookForPatch_resembles resembles ..
    · rename_i same
      cases same
      rfl
    · exact lookForIdempotencyKey_resembles _ ‹_›
    · exact lookForPagination_resembles resembles _ ‹_›
    · exact lookForMaximum_resembles resembles _ ‹_› ‹_›
    · exact lookForNextToken_resembles resembles _ ‹_›
    · exact lookForErrorSchema_resembles resembles _
    · exact lookForErrorResponses_resembles resembles _ ‹_›
    · rename_i same
      cases same
      rfl
  · rw [Rule.look_of_other_kind own, Rule.look_of_other_kind (same.kind ▸ own), same.kind]

end Looks

/-! ## Runs -/

section Runs

variable {first second : ReviewFacts} {firstPaths secondPaths : Members}
  (resembles : first.Resembles second firstPaths secondPaths) {rule : Rule}

theorem visit_resembles (settings : first.settings = second.settings)
    (looks : ∀ element other, element.Resembles other →
      rule.look first element = rule.look second other)
    {visit other : Visit} (same : Agree Element.Resembles visit other) :
    rule.visit first visit = rule.visit second other := by
  cases same with
  | failed cause => rfl
  | ok elements =>
      simp only [Rule.visit, Rule.guarded, rule.covers_of_resembles elements, looks _ _ elements,
        settings, elements.location]

theorem pathTexts_perm {root other paths others : Members}
    (reordered : Reordered root other paths others) : (pathTexts root).Perm (pathTexts other) := by
  rw [pathTexts, reordered.pathItems, pathTexts, reordered.symm.pathItems]
  exact reordered.permuted.map _

include resembles

theorem casingFindings_resembles (dominant? : Option CasingStyle) :
    (casingFindings first dominant?).Perm (casingFindings second dominant?) := by
  cases dominant? with
  | none => exact .refl _
  | some dominant => exact (pathTexts_perm resembles.reordered).flatMap_right _

theorem run_consistentCasing_resembles : ∃ found others,
    consistentCasing.run first = .ok found ∧ consistentCasing.run second = .ok others ∧
      (isTied (styleCounts (pathTexts first.spec)) = false → found.Perm others) := by
  have counts := styleCounts_perm (pathTexts_perm resembles.reordered)
  refine ⟨_, _, run_consistentCasing first, run_consistentCasing second, fun untied => ?_⟩
  rw [← counts.length_eq, ← mostCommon?_perm counts untied]
  split
  · exact .refl _
  · exact casingFindings_resembles resembles _

/-- A built-in rule reports the same findings about both documents, in some order, unless it depends
on which of two styles comes first. -/
theorem run_resembles (listed : rule ∈ Registry.standard.all) {found : List Finding}
    (ran : rule.run first = .ok found) :
    ∃ others, rule.run second = .ok others ∧
      ((rule.id = consistentCasing.id → isTied (styleCounts (pathTexts first.spec)) = false) →
        found.Perm others) := by
  by_cases judged : rule.id = consistentCasing.id
  · -- the ids of the built-in rules tell them apart
    have same : rule = consistentCasing := by
      simp only [standard_all, List.mem_cons, List.not_mem_nil, or_false] at listed
      rcases listed with rfl | rfl | rfl | rfl | rfl | rfl | rfl | rfl | rfl | rfl | rfl | rfl | rfl |
        rfl | rfl | rfl | rfl
      all_goals first | rfl | exact absurd judged (by decide)
    subst same
    obtain ⟨here, others, ranHere, ranThere, permuted⟩ := run_consistentCasing_resembles resembles
    rw [ranHere] at ran
    cases ran
    exact ⟨others, ranThere, fun untied => permuted (untied rfl)⟩
  · obtain ⟨groups, walked, shape⟩ := bind_ok ran
    cases shape
    obtain ⟨others, walkedThere, permuted⟩ := (visits_resembles resembles rule.kind).mapM
      (fun _ _ same => visit_resembles resembles.settings
        (fun _ _ elements => look_resembles resembles listed judged elements) same) walked
    refine ⟨others.flatten, ?_, fun _ => permuted.flatten⟩
    rw [Rule.run, walkedThere]
    rfl

end Runs
end ApiReview
