import ApiReview.Proofs.Rules.OperationFixes
import ApiReview.Proofs.Spec.ParameterLists
import ApiReview.Rules.Idempotency

/-! Rules whose fix merges parameters into the list of an operation. The merge
takes an item for the same when its name and location agree, for headers up to
letter case, which is what these rules look for; so whether an item is added or
was there already, the operation declares it afterwards. -/

set_option autoImplicit false

namespace ApiReview

open ApiReview.Text

/-- Whether the items of an optional parameter list that are references say nothing else. -/
def referencesStandAlone (owner : Members) : Bool :=
  match Members.get? owner "parameters" with
  | some (.list items) =>
    items.all fun item =>
      item.members?.all fun members => !Members.has members "$ref" || members.length == 1
  | _ => true

/-- Whether the references in the parameter lists of all operations say nothing else. -/
def hasPlainReferences (spec : Node) : Bool :=
  (pathItems (spec.members?.getD [])).all fun (_, item) =>
    item.members?.all fun pathItem =>
      pathItem.all fun (_, value) => value.members?.all referencesStandAlone

/-- A parameter that a rule proposes: an inline one with a name, at a textual location. -/
structure IsProposal (parameter : Node) (name location : String) : Prop where
  named : parameter.get? "name" = some (.str name)
  located : parameter.get? "in" = some (.str location)
  inline : parameter.get? "$ref" = none
  hasName : lower name ≠ lower ""

/-- Whether an operation has a parameter that counts as one with a name at a location: names of
headers count up to letter case. -/
def Operation.Declares (operation : Operation) (name location : String) : Prop :=
  ∃ declared ∈ operation.parameters, declared.location = .str location ∧
    lower declared.name = lower name ∧ (location ≠ "header" → declared.name = name)

variable {name location : String} {parameter item : Node} {members root : Members}
  {operation : Operation}

/-- An item that counts as the same as a proposal describes a parameter that does. -/
theorem sameItem_proposal (proposal : IsProposal parameter name location)
    (same : sameItem parameter item = true) :
    ∃ others nameNode, item = .object others ∧ Members.get? others "in" = some (.str location) ∧
      Members.get? others "name" = some nameNode ∧ lower nameNode.display = lower name ∧
      (location ≠ "header" → nameNode = .str name) := by
  cases parameter with
  | object members =>
      have named : Members.get? members "name" = some (.str name) := proposal.named
      have located : Members.get? members "in" = some (.str location) := proposal.located
      cases item with
      | object others =>
          simp only [sameItem, named, located] at same
          split at same
          · cases same
          rename_i agreed
          have sameLocation : (Members.get? others "in").getD .null = .str location :=
            Node.str_same (by simpa using agreed)
          have present : Members.get? others "in" = some (.str location) := by
            cases read : Members.get? others "in" with
            | none =>
                rw [read] at sameLocation
                cases sameLocation
            | some value =>
                rw [read, Option.getD_some] at sameLocation
                rw [sameLocation]
          split at same
          · rename_i header
            have isHeader : location = "header" := Node.str.inj (Node.same_str header)
            cases read : Members.get? others "name" with
            | none =>
                rw [read, beq_iff_eq] at same
                exact absurd same proposal.hasName
            | some nameNode =>
                rw [read, beq_iff_eq] at same
                exact ⟨others, nameNode, rfl, present, read, same.symm,
                  fun other => absurd isHeader other⟩
          · have sameName : (Members.get? others "name").getD .null = .str name :=
              Node.str_same same
            cases read : Members.get? others "name" with
            | none =>
                rw [read] at sameName
                cases sameName
            | some nameNode =>
                rw [read, Option.getD_some] at sameName
                rw [sameName] at read
                exact ⟨others, .str name, rfl, present, read, rfl, fun _ => rfl⟩
      | _ => simp [sameItem, Node.same, Node.sameScalar, Node.quantity?] at same
  | _ => cases proposal.named

theorem mem_foldl_keepNew {kept items : List Node} (among : item ∈ items.foldl keepNew kept) :
    item ∈ kept ∨ item ∈ items := by
  induction items generalizing kept with
  | nil => exact .inl among
  | cons first items ih =>
      rcases ih among with inside | later
      · rw [keepNew] at inside
        split at inside
        · exact .inl inside
        · rcases List.mem_append.mp inside with inside | here
          · exact .inl inside
          · exact .inr (List.mem_cons.mpr (.inl (List.mem_singleton.mp here)))
      · exact .inr (List.mem_cons_of_mem first later)

/-- After proposals were merged into a list, an operation with that list declares each of them. -/
theorem declares_of_merge {spec : Node} {path method : String} {pathItem : Members}
    {present proposals : List Node}
    (read : parametersOf spec path pathItem method operation.definition = .ok operation.parameters)
    (listed : Members.get? operation.definition "parameters" =
      some (.list (proposals.foldl keepNew present)))
    (standAlone : ∀ members, .object members ∈ present →
      Members.has members "$ref" = true → members.length = 1)
    (inline : ∀ proposal ∈ proposals, proposal.get? "$ref" = none)
    (among : parameter ∈ proposals) (proposal : IsProposal parameter name location) :
    operation.Declares name location := by
  obtain ⟨item, merged, agrees⟩ := covered_by_foldl_keepNew present among
  have described : ∃ others nameNode, item = .object others ∧
      Members.get? others "in" = some (.str location) ∧
      Members.get? others "name" = some nameNode ∧ lower nameNode.display = lower name ∧
      (location ≠ "header" → nameNode = .str name) := by
    rcases agrees with rfl | same
    · cases item with
      | object members =>
          exact ⟨members, .str name, rfl, proposal.located, proposal.named, rfl, fun _ => rfl⟩
      | _ => cases proposal.named
    · exact sameItem_proposal proposal same
  obtain ⟨others, nameNode, rfl, located, named, sameName, exactName⟩ := described
  have plain : Members.get? others "$ref" = none := by
    rcases mem_foldl_keepNew merged with inside | proposed
    · cases reference : Members.get? others "$ref" with
      | none => rfl
      | some value =>
          have single := standAlone others inside (by simp [Members.has, reference])
          obtain ⟨only, rfl⟩ := List.length_eq_one_iff.mp single
          have first := Members.mem_of_lookup named
          have second := Members.mem_of_lookup located
          rw [List.mem_singleton] at first second
          rw [← first] at second
          exact absurd (congrArg Prod.fst second) (by simp)
    · exact inline _ proposed
  obtain ⟨declared, inside, sameAs, place⟩ :=
    isAt_parametersOf read listed merged plain named located
  refine ⟨declared, inside, place, by rw [sameAs, sameName], fun other => ?_⟩
  rw [sameAs, exactName other]
  rfl

/-! ## The rules -/

/-- A rule on operations that reports an operation with proposals for parameters, unless the
operation declares all of them. -/
structure AddsParameters (look : RuleContext → Operation → Report) (proposals : List Node) :
    Prop where
  reports : ∀ context operation report, look context operation = .ok report →
    report = [] ∨ ∃ message suggestion,
      Rules.missingParameters context operation message suggestion proposals = .ok report
  silent : ∀ context operation,
    (∀ parameter ∈ proposals, ∀ name location, IsProposal parameter name location →
      operation.Declares name location) → look context operation = .ok []
  inline : ∀ proposal ∈ proposals, proposal.get? "$ref" = none

/-- The one finding about missing parameters, and the one change of its fix. -/
theorem missingParameters_ok {context : RuleContext} {message suggestion : String}
    {proposals : List Node} {report : List Finding}
    (reported :
      Rules.missingParameters context operation message suggestion proposals = .ok report) :
    ∃ finding fix, report = [finding] ∧ finding.path = operation.location ∧
      finding.fix? = some fix ∧
      fix.changes = [{ kind := .merge
                       address := Address.ofParameters operation.path (some operation.method)
                       value := .list proposals }] := by
  obtain ⟨fix, built, shape⟩ := bind_ok reported
  cases shape
  refine ⟨_, fix, rfl, rfl, rfl, ?_⟩
  obtain ⟨names, _, built⟩ := bind_ok built
  cases proposals with
  | nil => cases built
  | cons first rest =>
      cases rest with
      | nil =>
          cases built
          rfl
      | cons second rest =>
          cases built
          rfl

variable {rule : Rule} {look : RuleContext → Operation → Report} {proposals : List Node}
  {settings : Settings} {vocabulary : Vocabulary}

theorem AddsParameters.places (adds : AddsParameters look proposals) : PlacesFindings look := by
  intro context operation report looked finding among
  rcases adds.reports context operation report looked with rfl | ⟨message, suggestion, reported⟩
  · cases among
  · obtain ⟨only, _, rfl, placed, _⟩ := missingParameters_ok reported
    rw [List.mem_singleton.mp among]
    exact placed

theorem standAlone_of_hasPlainReferences {pathKey : Key} {key : String} {present : List Node}
    {spec : Node} (plain : hasPlainReferences (.object root) = true)
    (source : IsOperation spec root pathKey key operation)
    (listed : Members.get? operation.definition "parameters" = some (.list present))
    (among : .object members ∈ present) (reference : Members.has members "$ref" = true) :
    members.length = 1 := by
  have item : (operation.pathItem.all fun (_, value) =>
      value.members?.all referencesStandAlone) = true := List.all_eq_true.mp plain _ source.listed
  have items : referencesStandAlone operation.definition = true :=
    List.all_eq_true.mp item _ source.declared
  rw [referencesStandAlone, listed] at items
  have alone := List.all_eq_true.mp items _ among
  simpa [Node.members?, reference] using alone

/-- A fix that adds parameters resolves its finding. -/
theorem AddsParameters.fixesResolve (check : rule.check = .operation look)
    (adds : AddsParameters look proposals) : rule.FixesResolve hasPlainReferences := by
  intro settings vocabulary before after found rerun finding fix named distinct plain reported
    among carried made again
  obtain ⟨facts, operation, pathKey, key, report, rfl, _, source, placed, _, looked, inside⟩ :=
    Rule.looked_of_fix check adds.places reported among carried
  rcases adds.reports _ _ _ looked with rfl | ⟨message, suggestion, missing⟩
  · cases inside
  obtain ⟨only, onlyFix, rfl, _, onlyCarried, changes⟩ := missingParameters_ok missing
  rw [List.mem_singleton.mp inside, onlyCarried] at carried
  rw [← Option.some.inj carried, changes] at made
  have applied := Change.applyAll_singleton made
  let way := ["paths", operation.path, lower key, "parameters"]
  have located : ∀ change : Change,
      change.address = Address.ofParameters operation.path (some operation.method) →
      change.locate (.object facts.spec) = .ok ([] ++ way.map .name) := by
    intro change address
    rw [Change.locate, address, source.method,
      Address.locate_ofParameters source.isMethod operation.path]
    rfl
  have notList : ∀ items, (Node.object facts.spec).at? ([] ++ way.dropLast.map .name) ≠
      some (.list items) := by
    intro items isList
    cases (source.eq_of_lower named distinct isList).2
  obtain ⟨present, origin, edited, _⟩ :=
    Change.merge_ok rfl rfl (by simp [way]) (located _ rfl) rfl notList applied
  have reached : ∃ held, (Node.object facts.spec).at?
      [.name "paths", .name operation.path, .name (lower key)] = some held := by
    rcases origin with existing | ⟨_, edits, opened⟩
    · obtain ⟨held, reached, _⟩ := at?_below_operation existing
      exact ⟨held, reached⟩
    · exact (parentEdits_protected opened).2 (by simp)
  obtain ⟨held, reached⟩ := reached
  rw [placed]
  refine Rule.no_finding_after_graft check adds.places source named distinct reached edited again ?_
  intro laterFacts later laterPath laterKey laterSource definition
  have listed : Members.get? later.definition "parameters" =
      some (.list (proposals.foldl keepNew present)) := by
    rw [definition, Members.get?_put_self]
    rfl
  have standAlone : ∀ members, .object members ∈ present →
      Members.has members "$ref" = true → members.length = 1 := by
    intro members inPresent reference
    rcases origin with existing | ⟨rfl, _⟩
    · obtain ⟨between, operationAt, existing⟩ := at?_below_operation existing
      rw [(source.eq_of_lower named distinct operationAt).2, List.map_singleton,
        Node.at?_singleton] at existing
      exact standAlone_of_hasPlainReferences plain source existing inPresent reference
    · cases inPresent
  exact adds.silent _ _ fun parameter proposed name location proposal =>
    declares_of_merge laterSource.parameters listed standAlone adds.inline proposed proposal

end ApiReview
