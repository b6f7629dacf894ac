import ApiReview.Proofs.Spec.Operations
import ApiReview.Review

/-! What a rule reports on a document. Each finding comes from one look at one
element of the document, or records that the look failed; the findings of a review
are those of its active rules. -/

set_option autoImplicit false

namespace ApiReview

/-- The findings of a rule on a document: those of its run over the facts of the document. -/
def Rule.findingsOn (rule : Rule) (settings : Settings) (vocabulary : Vocabulary) (spec : Node) :
    Except ReviewFailure (List Finding) := do
  rule.run (← (ReviewFacts.ofSpec spec settings vocabulary).mapError .fault)

variable {rule : Rule} {settings : Settings} {vocabulary : Vocabulary} {spec : Node}
  {facts : ReviewFacts} {found : List Finding} {finding : Finding} {element : Element}

theorem Rule.findingsOn_ok (reported : rule.findingsOn settings vocabulary spec = .ok found) :
    ∃ facts, ReviewFacts.ofSpec spec settings vocabulary = .ok facts ∧ rule.run facts = .ok found := by
  obtain ⟨facts, derived, ran⟩ := bind_ok reported
  exact ⟨facts, mapError_ok derived, ran⟩

/-- The facts of a document hold the document, the settings and its operations. -/
theorem ReviewFacts.ofSpec_ok (derived : ofSpec spec settings vocabulary = .ok facts) :
    spec = .object facts.spec ∧ facts.settings = settings ∧
      operationsOf (.object facts.spec) = .ok facts.operations := by
  obtain ⟨singletons, _, derived⟩ := bind_ok derived
  obtain ⟨operations, read, derived⟩ := bind_ok derived
  obtain ⟨members, rooted, derived⟩ := bind_ok derived
  cases derived
  cases spec with
  | object root =>
      cases rooted
      exact ⟨rfl, rfl, read⟩
  | _ => cases rooted

theorem ReviewFacts.vocabulary_ofSpec (derived : ofSpec spec settings vocabulary = .ok facts) :
    facts.vocabulary = vocabulary := by
  obtain ⟨singletons, _, derived⟩ := bind_ok derived
  obtain ⟨operations, _, derived⟩ := bind_ok derived
  obtain ⟨members, _, derived⟩ := bind_ok derived
  cases derived
  rfl

/-- Whether a path lists a collection depends on the settings and the vocabulary alone. -/
theorem ReviewFacts.isCollection_ofSpec (derived : ofSpec spec settings vocabulary = .ok facts)
    (path : String) :
    facts.isCollection path = Path.isCollection vocabulary settings.singletonEndpoints path := by
  obtain ⟨singletons, _, derived⟩ := bind_ok derived
  obtain ⟨operations, _, derived⟩ := bind_ok derived
  obtain ⟨members, _, derived⟩ := bind_ok derived
  cases derived
  rfl

/-- How a finding came about: a look at an element reported it, or the look failed. -/
inductive Rule.Reports (rule : Rule) (facts : ReviewFacts) (element : Element) (finding : Finding) :
    Prop where
  | looked {report : List Finding} :
      rule.look facts element = .ok report → finding ∈ report → Reports rule facts element finding
  | failed {cause : Fault} :
      rule.look facts element = .error cause →
      finding = rule.failureFinding element.location cause → Reports rule facts element finding

theorem Rule.mem_run (ran : rule.run facts = .ok found) (among : finding ∈ found) :
    ∃ element, .ok element ∈ facts.visits rule.kind ∧ rule.covers element = true ∧
      rule.Reports facts element finding := by
  obtain ⟨groups, walked, shape⟩ := bind_ok ran
  cases shape
  obtain ⟨group, inside, among⟩ := List.mem_flatten.mp among
  obtain ⟨visit, visited, stepped⟩ := mem_of_mapM_ok walked inside
  cases visit with
  | error fault => cases stepped
  | ok element =>
      rw [Rule.visit] at stepped
      split at stepped
      · rename_i covered
        refine ⟨element, visited, covered, ?_⟩
        rw [Rule.guarded] at stepped
        split at stepped
        · rename_i report looked
          cases stepped
          exact .looked looked among
        · rename_i cause looked
          split at stepped
          · cases stepped
          · split at stepped
            · cases stepped
            · cases stepped
              exact .failed looked (List.mem_singleton.mp among)
            · cases stepped
              cases among
      · cases stepped
        cases among

/-- What a look at a covered element reports is among the findings of the run. -/
theorem Rule.run_mem (ran : rule.run facts = .ok found)
    (visited : .ok element ∈ facts.visits rule.kind) (covered : rule.covers element = true)
    {report : List Finding} (looked : rule.look facts element = .ok report) : report ⊆ found := by
  obtain ⟨groups, walked, shape⟩ := bind_ok ran
  cases shape
  obtain ⟨group, inside, stepped⟩ := mapM_ok_mem walked visited
  rw [Rule.visit, if_pos covered, Rule.guarded, looked] at stepped
  cases stepped
  intro finding among
  exact List.mem_flatten.mpr ⟨report, inside, among⟩

/-! ## Reviews -/

theorem mem_scheduled {rules : List Rule} (listed : rule ∈ Reviewer.scheduled rules) :
    rule ∈ rules := by
  obtain ⟨kind, _, among⟩ := List.mem_flatMap.mp listed
  exact (List.mem_filter.mp among).1

/-- The findings of a review are findings of its active rules, promoted if it is strict. -/
theorem Reviewer.mem_review {reviewer : Reviewer} {specPath? : Option String}
    {result : ReviewResult} (reviewed : reviewer.review spec specPath? = .ok result)
    (among : finding ∈ result.findings) :
    ∃ rule ∈ reviewer.activeRules, ∃ found, ∃ original ∈ found,
      rule.findingsOn reviewer.settings reviewer.vocabulary spec = .ok found ∧
      (finding = original ∨ finding = original.promoted) := by
  obtain ⟨facts, derived, reviewed⟩ := bind_ok reviewed
  obtain ⟨found, ran, reviewed⟩ := bind_ok reviewed
  obtain ⟨title?, _, shape⟩ := bind_ok reviewed
  cases shape
  obtain ⟨groups, walked, shape⟩ := bind_ok ran
  cases shape
  have origin : ∃ original ∈ groups.flatten, finding = original ∨ finding = original.promoted := by
    simp only at among
    split at among
    · obtain ⟨original, inside, rfl⟩ := List.mem_map.mp among
      exact ⟨original, inside, .inr rfl⟩
    · exact ⟨finding, among, .inl rfl⟩
  obtain ⟨original, inside, promoted⟩ := origin
  obtain ⟨group, grouped, inside⟩ := List.mem_flatten.mp inside
  obtain ⟨rule, listed, stepped⟩ := mem_of_mapM_ok walked grouped
  refine ⟨rule, mem_scheduled listed, group, original, inside, ?_, promoted⟩
  rw [Rule.findingsOn, derived]
  exact stepped

end ApiReview
