import ApiReview.Proofs.Review.Calls

/-! The order of the calls of a review: kind by kind, then rule by rule, then element
by element. The elements of a kind are read off the document here without regard to
what may stop the walk; where nothing stops it, a review visits just these. -/

set_option autoImplicit false

namespace ApiReview

/-- The entries that are objects. -/
def objectsOf (entries : List (String × Node)) : List (String × Node) :=
  entries.filter fun (_, node) => node.isObject

/-- The properties of a node that is a schema with properties, by name. -/
def Node.propertyEntries : Node → List (String × Node)
  | .object schema => (propertiesOf schema).toOption.getD []
  | _ => []

namespace ReviewFacts

/-- The elements of a kind, in document order. -/
def elements (facts : ReviewFacts) : RuleKind → List Element
  | .spec => [.spec]
  | .path => (objectsOf facts.paths).map fun (path, item) => .path path item
  | .operation => facts.operations.map .operation
  | .parameter =>
    facts.operations.flatMap fun operation => operation.parameters.map (.parameter operation)
  | .schema => (objectsOf facts.schemas).map fun (name, schema) => .schema name schema
  | .property =>
    (objectsOf facts.schemas).flatMap fun (name, schema) =>
      (objectsOf schema.propertyEntries).map fun (property, value) => .property name property value

/-- The properties of every schema can be walked over. -/
def HasWalkableProperties (facts : ReviewFacts) : Prop :=
  ∀ name schema, (name, Node.object schema) ∈ facts.schemas →
    ∃ properties, propertiesOf schema = .ok properties

/-- What the handlers of some rules yield, rule by rule and element by element. -/
def yielded (facts : ReviewFacts) (kind : RuleKind) (rules : List Rule) : List Finding :=
  rules.flatMap fun rule => ((facts.elements kind).filter rule.covers).flatMap fun element =>
    (rule.look facts element).toOption.getD []

/-- What the handlers of some rules yield in the order in which rules are dispatched. -/
def dispatched (facts : ReviewFacts) (rules : List Rule) : List Finding :=
  RuleKind.all.flatMap fun kind => facts.yielded kind (rules.filter fun rule => rule.kind = kind)

/-- Every rule has an answer about each element that it is asked about. -/
def AllSucceed (facts : ReviewFacts) (rules : List Rule) : Prop :=
  ∀ rule ∈ rules, ∀ element ∈ facts.elements rule.kind, rule.covers element = true →
    ∃ found, rule.look facts element = .ok found

/-- The walk over the elements of the rules comes to an end. -/
def IsWalkable (facts : ReviewFacts) (rules : List Rule) : Prop :=
  (∃ rule ∈ rules, rule.kind = .property) → facts.HasWalkableProperties

end ReviewFacts

/-- What a turn yields, if it is a call that is answered. -/
def ReviewFacts.yield (facts : ReviewFacts) : Turn → List Finding
  | .ok call => (call.report facts).toOption.getD []
  | .error _ => []

variable {facts : ReviewFacts} {rule : Rule} {rules : List Rule} {turns : List Turn}
  {found : List Finding} {kind : RuleKind}

/-! ## Visits -/

section Visits

theorem propertyVisits_of_ok {name : String} {schema : Members}
    {properties : List (String × Node)} (read : propertiesOf schema = .ok properties) :
    propertyVisits name schema =
      ((objectsOf (Node.object schema).propertyEntries).map
        fun (property, value) => Element.property name property value).map .ok := by
  unfold propertyVisits Node.propertyEntries objectsOf
  simp only [read, Except.toOption, Option.getD_some, List.map_map]
  rfl

/-- Where the walk does not stop, a review visits the elements of the kind. -/
theorem ReviewFacts.visits_eq_elements (walkable : kind = .property → facts.HasWalkableProperties) :
    facts.visits kind = (facts.elements kind).map .ok := by
  cases kind with
  | spec => rfl
  | path | operation | schema =>
      unfold visits elements objectsOf
      rw [List.map_map]
      rfl
  | parameter =>
      unfold visits elements
      rw [List.map_flatMap]
      simp only [List.map_map]
      rfl
  | property =>
      have readable := walkable rfl
      unfold HasWalkableProperties at readable
      change facts.schemas.flatMap _ = (List.flatMap _ (objectsOf facts.schemas)).map Except.ok
      generalize facts.schemas = schemas at readable ⊢
      induction schemas with
      | nil => rfl
      | cons entry entries ih =>
          obtain ⟨name, schema⟩ := entry
          have later := ih fun name schema among =>
            readable name schema (List.mem_cons_of_mem _ among)
          cases schema with
          | object members =>
              obtain ⟨properties, read⟩ := readable name members List.mem_cons_self
              rw [List.flatMap_cons, later]
              change propertyVisits name members ++ _ =
                (_ ++ List.flatMap _ (objectsOf entries)).map Except.ok
              rw [List.map_append, propertyVisits_of_ok read]
          | _ => exact later

/-- A property walk that stops has a fault among its visits. -/
theorem ReviewFacts.exists_fault_of_not_walkable (stuck : ¬ facts.HasWalkableProperties) :
    ∃ fault, .error fault ∈ facts.visits .property := by
  unfold HasWalkableProperties at stuck
  simp only [not_forall, not_exists] at stuck
  obtain ⟨name, schema, listed, unreadable⟩ := stuck
  cases read : propertiesOf schema with
  | ok properties => exact absurd read (unreadable properties)
  | error fault =>
      refine ⟨fault, List.mem_flatMap.mpr ⟨(name, .object schema), listed, ?_⟩⟩
      simp only [propertyVisits, read, List.mem_singleton]

theorem filterMap_turn? (elements : List Element) :
    (elements.map Except.ok).filterMap rule.turn? =
      (elements.filter rule.covers).map fun element => .ok ⟨rule, element⟩ := by
  induction elements with
  | nil => rfl
  | cons element elements ih =>
      rw [List.map_cons]
      cases covered : rule.covers element with
      | true =>
          have turned : rule.turn? (.ok element) = some (.ok ⟨rule, element⟩) := by
            simp only [Rule.turn?, covered, if_true]
          rw [List.filterMap_cons_some turned, List.filter_cons_of_pos covered, ih, List.map_cons]
      | false =>
          have turned : rule.turn? (.ok element) = none := by
            simp only [Rule.turn?, covered, Bool.false_eq_true, if_false]
          rw [List.filterMap_cons_none turned, List.filter_cons_of_neg (by simp [covered]), ih]

end Visits

/-! ## Findings -/

section Findings

theorem ReviewFacts.gather_of_calls (calls : List Call)
    (succeed : ∀ call ∈ calls, ∃ found, call.report facts = .ok found) :
    facts.gather (calls.map .ok) =
      .ok (calls.flatMap fun call => (call.report facts).toOption.getD []) := by
  induction calls with
  | nil => rfl
  | cons call calls ih =>
      obtain ⟨found, answered⟩ := succeed call List.mem_cons_self
      have later := ih fun call among => succeed call (List.mem_cons_of_mem _ among)
      rw [List.map_cons, gather, answer_of_report answered, later, List.flatMap_cons, answered]
      rfl

theorem ReviewFacts.no_fault_of_gather (gathered : facts.gather turns = .ok found) (fault : Fault) :
    .error fault ∉ turns := by
  induction turns generalizing found with
  | nil => exact List.not_mem_nil
  | cons turn rest ih =>
      unfold gather at gathered
      obtain ⟨first, answered, gathered⟩ := bind_ok gathered
      obtain ⟨later, walked, -⟩ := bind_ok gathered
      intro among
      rcases List.mem_cons.mp among with rfl | behind
      · cases answered
      · exact ih walked behind

/-- The calls of some rules in the order in which they are made. -/
def ReviewFacts.calls (facts : ReviewFacts) (rules : List Rule) : List Call :=
  (Reviewer.scheduled rules).flatMap fun rule =>
    ((facts.elements rule.kind).filter rule.covers).map fun element => ⟨rule, element⟩

theorem ReviewFacts.turns_eq_calls (walkable : facts.IsWalkable rules) :
    facts.turns rules = (facts.calls rules).map .ok := by
  unfold turns calls
  rw [List.map_flatMap]
  refine List.flatMap_congr fun rule among => ?_
  rw [visits_eq_elements fun same => walkable ⟨rule, mem_scheduled among, same⟩, filterMap_turn?,
    List.map_map]
  rfl

theorem ReviewFacts.dispatched_eq_calls :
    facts.dispatched rules =
      (facts.calls rules).flatMap fun call => (call.report facts).toOption.getD [] := by
  unfold dispatched yielded calls Reviewer.scheduled
  rw [List.flatMap_assoc, List.flatMap_assoc]
  refine List.flatMap_congr fun kind _ => ?_
  refine List.flatMap_congr fun rule among => ?_
  have same : rule.kind = kind := of_decide_eq_true (List.mem_filter.mp among).2
  rw [same, List.flatMap_map]
  rfl

theorem mem_scheduled_of_mem (listed : rule ∈ rules) : rule ∈ Reviewer.scheduled rules := by
  refine List.mem_flatMap.mpr ⟨rule.kind, ?_, List.mem_filter.mpr ⟨listed, by simp⟩⟩
  cases rule.kind <;> decide

theorem ReviewFacts.isWalkable_of_gather (gathered : facts.gather (facts.turns rules) = .ok found) :
    facts.IsWalkable rules := by
  -- the walk of a rule for properties meets the fault, whatever its filters let through
  rintro ⟨rule, listed, kind⟩
  by_contra stuck
  obtain ⟨fault, visited⟩ := exists_fault_of_not_walkable stuck
  refine no_fault_of_gather gathered fault ?_
  refine List.mem_flatMap.mpr ⟨rule, mem_scheduled_of_mem listed, ?_⟩
  exact List.mem_filterMap.mpr ⟨.error fault, kind ▸ visited, rfl⟩

/-- Where no call fails, the findings are those of the rules as they are dispatched. -/
theorem ReviewFacts.gather_eq_dispatched (walkable : facts.IsWalkable rules)
    (succeed : facts.AllSucceed rules) :
    facts.gather (facts.turns rules) = .ok (facts.dispatched rules) := by
  rw [turns_eq_calls walkable, dispatched_eq_calls]
  apply gather_of_calls
  intro call among
  obtain ⟨rule, listed, among⟩ := List.mem_flatMap.mp among
  obtain ⟨element, covered, rfl⟩ := List.mem_map.mp among
  obtain ⟨inside, covered⟩ := List.mem_filter.mp covered
  exact succeed rule (mem_scheduled listed) element inside covered

theorem ReviewFacts.mem_dispatched {finding : Finding} (among : finding ∈ facts.dispatched rules) :
    ∃ rule ∈ rules, ∃ element found, rule.look facts element = .ok found ∧ finding ∈ found := by
  obtain ⟨kind, -, among⟩ := List.mem_flatMap.mp among
  obtain ⟨rule, listed, among⟩ := List.mem_flatMap.mp among
  obtain ⟨element, -, among⟩ := List.mem_flatMap.mp among
  cases looked : rule.look facts element with
  | ok found =>
      rw [looked] at among
      exact ⟨rule, (List.mem_filter.mp listed).1, element, found, looked, among⟩
  | error cause =>
      rw [looked] at among
      cases among

end Findings

/-! ## Reviews -/

/-- A reviewer runs some registered rules over a document: it has a result when the document can be
walked over and its title is a text, and then the findings of those rules that the settings allow,
in the order in which they are dispatched. -/
def Reviewer.Runs (reviewer : Reviewer) (registered : List Rule) (spec : Node)
    (specPath? : Option String) : Prop :=
  let rules := registered.filter (Reviewer.isActive reviewer.settings)
  (∀ result, reviewer.review spec specPath? = .ok result ↔
    ∃ facts title?,
      ReviewFacts.ofSpec spec reviewer.settings reviewer.vocabulary = .ok facts ∧
      facts.IsWalkable rules ∧ Reviewer.title? facts.info = .ok title? ∧
      result = reviewer.result facts specPath? title? (facts.dispatched rules) ∧
      result.metadata.rulesApplied = rules.length) ∧
  ((∀ rule ∈ rules, rule.Stamps) → ∀ result, reviewer.review spec specPath? = .ok result →
    ∀ finding ∈ result.findings, ∃ rule ∈ rules, finding.ruleId = rule.id)

/-- No rule that the reviewer runs over a document fails. -/
def Reviewer.AllSucceed (reviewer : Reviewer) (spec : Node) : Prop :=
  ∀ facts, ReviewFacts.ofSpec spec reviewer.settings reviewer.vocabulary = .ok facts →
    facts.AllSucceed reviewer.activeRules

section Reviews

variable {reviewer : Reviewer} {spec : Node} {specPath? : Option String}

theorem Reviewer.ruleId_of_mem_shown {found : List Finding} {finding : Finding}
    (among : finding ∈ reviewer.shown found) :
    ∃ original ∈ found, finding.ruleId = original.ruleId := by
  unfold Reviewer.shown at among
  split at among
  · obtain ⟨original, inside, rfl⟩ := List.mem_map.mp among
    refine ⟨original, inside, ?_⟩
    unfold Finding.promoted
    split <;> rfl
  · exact ⟨finding, among, rfl⟩

theorem Reviewer.runs_of_activeRules {registered : List Rule}
    (active : reviewer.activeRules = registered.filter (Reviewer.isActive reviewer.settings))
    (succeed : reviewer.AllSucceed spec) : reviewer.Runs registered spec specPath? := by
  unfold Reviewer.Runs
  rw [← active]
  have described : ∀ result, reviewer.review spec specPath? = .ok result ↔
      ∃ facts title?,
        ReviewFacts.ofSpec spec reviewer.settings reviewer.vocabulary = .ok facts ∧
        facts.IsWalkable reviewer.activeRules ∧ Reviewer.title? facts.info = .ok title? ∧
        result = reviewer.result facts specPath? title? (facts.dispatched reviewer.activeRules) ∧
        result.metadata.rulesApplied = reviewer.activeRules.length := by
    intro result
    rw [Reviewer.review_ok_iff]
    constructor
    · rintro ⟨facts, found, title?, derived, gathered, titled, rfl⟩
      have walkable := ReviewFacts.isWalkable_of_gather gathered
      rw [ReviewFacts.gather_eq_dispatched walkable (succeed facts derived)] at gathered
      cases gathered
      exact ⟨facts, title?, derived, walkable, titled, rfl, rfl⟩
    · rintro ⟨facts, title?, derived, walkable, titled, rfl, -⟩
      exact ⟨facts, _, title?, derived,
        ReviewFacts.gather_eq_dispatched walkable (succeed facts derived), titled, rfl⟩
  refine ⟨described, fun stamps result reviewed finding among => ?_⟩
  obtain ⟨facts, title?, -, -, -, rfl, -⟩ := (described result).mp reviewed
  obtain ⟨original, inside, same⟩ := Reviewer.ruleId_of_mem_shown among
  obtain ⟨rule, listed, element, found, looked, inside⟩ := ReviewFacts.mem_dispatched inside
  obtain ⟨path, message, details, rfl⟩ := stamps rule listed facts element found looked _ inside
  exact ⟨rule, listed, same⟩

end Reviews

/-- A reviewer with a rule for operations, which comes first, and one for schemas' properties. -/
def twoKinds : Reviewer where
  registry := ⟨[(1,
    [⟨⟨"acme/property", "Property", .warning, "", none, none, none, none⟩,
      Script.toCheck { messages := ["property"] } .property⟩,
     ⟨⟨"acme/operation", "Operation", .warning, "", none, none, none, none⟩,
      Script.toCheck { messages := ["operation"] } .operation⟩])]⟩

/-- A document with an operation, and with a property that is an object beside one that is not. -/
def operationAndProperty : Node :=
  .object [
    (.str "components", .object [(.str "schemas", .object [(.str "User", .object
      [(.str "properties", .object [(.str "id", .object []), (.str "odd", .null)])])])]),
    (.str "paths", .object [(.str "/users", .object [(.str "get", .object [])])])]

theorem twoKinds_allSucceed (spec : Node) : twoKinds.AllSucceed spec := by
  intro facts derived
  have succeed : facts.AllSucceed twoKinds.registry.all := by
    refine forall_mem_group fun rule listed => ?_
    intro element inside covered
    simp only [List.mem_cons, List.not_mem_nil, or_false] at listed
    rcases listed with rfl | rfl
    · obtain ⟨⟨name, schema⟩, -, inside⟩ := List.mem_flatMap.mp inside
      obtain ⟨⟨property, value⟩, -, rfl⟩ := List.mem_map.mp inside
      exact ⟨_, rfl⟩
    · obtain ⟨operation, -, rfl⟩ := List.mem_map.mp inside
      exact ⟨_, rfl⟩
  exact fun rule active => succeed rule (List.mem_filter.mp active).1

end ApiReview
