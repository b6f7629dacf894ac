import ApiReview.Proofs.Rules.Conduct
import ApiReview.Proofs.Rules.Findings

/-! The calls of a review. A review asks each active rule about each element of
its kind that passes the rule's filters, in an order that neither the answers nor
the policy for failures have a part in. What the policy decides is only what
becomes of the answers, once the calls and the end of the walk are known. -/

set_option autoImplicit false

namespace ApiReview

/-- A rule and an element that it is asked about. -/
structure Call where
  rule : Rule
  element : Element

/-- What the rule of a call answers. -/
def Call.report (call : Call) (facts : ReviewFacts) : Report :=
  call.rule.look facts call.element

/-- What a review turns to next: a call, or the fault that ends the walk in its place. -/
abbrev Turn := Except Fault Call

/-- What a visit of a rule comes to. An element that the filters of the rule keep out is no call. -/
def Rule.turn? (rule : Rule) : Visit → Option Turn
  | .ok element => if rule.covers element then some (.ok ⟨rule, element⟩) else none
  | .error fault => some (.error fault)

/-- What some rules are asked in a review, in order. -/
def ReviewFacts.turns (facts : ReviewFacts) (rules : List Rule) : List Turn :=
  (Reviewer.scheduled rules).flatMap fun rule => (facts.visits rule.kind).filterMap rule.turn?

/-- The findings of a turn under the policy of the settings. -/
def ReviewFacts.answer (facts : ReviewFacts) : Turn → Except ReviewFailure (List Finding)
  | .ok call => call.rule.guarded facts call.element
  | .error fault => .error (.fault fault)

/-- The findings of several turns, one after the other. -/
def ReviewFacts.gather (facts : ReviewFacts) : List Turn → Except ReviewFailure (List Finding)
  | [] => .ok []
  | turn :: rest => do
    let found ← facts.answer turn
    let later ← facts.gather rest
    .ok (found ++ later)

variable {rule : Rule} {rules : List Rule} {facts : ReviewFacts} {turns : List Turn} {call : Call}

theorem ReviewFacts.gather_append (first second : List Turn) :
    facts.gather (first ++ second) = (do
      let found ← facts.gather first
      let later ← facts.gather second
      .ok (found ++ later)) := by
  induction first with
  | nil =>
      cases answered : facts.gather second with
      | error failure => simp [gather, answered, bind, Except.bind]
      | ok found => simp [gather, answered, bind, Except.bind]
  | cons turn first ih =>
      simp only [List.cons_append, gather, ih]
      cases facts.answer turn with
      | error failure => rfl
      | ok found =>
          cases facts.gather first with
          | error failure => rfl
          | ok later =>
              cases facts.gather second with
              | error failure => rfl
              | ok last => simp [bind, Except.bind]

theorem Rule.run_eq_gather :
    rule.run facts = facts.gather ((facts.visits rule.kind).filterMap rule.turn?) := by
  unfold Rule.run
  induction facts.visits rule.kind with
  | nil => rfl
  | cons visit visits ih =>
      have step : rule.visit facts visit =
          ((rule.turn? visit).map facts.answer).getD (.ok []) := by
        cases visit with
        | error fault => rfl
        | ok element => by_cases covered : rule.covers element <;> simp [Rule.visit, turn?, covered,
            ReviewFacts.answer]
      rw [List.mapM_cons, step]
      cases turned : rule.turn? visit with
      | none =>
          rw [List.filterMap_cons_none turned, ← ih]
          cases visits.mapM (rule.visit facts) <;> rfl
      | some turn =>
          rw [List.filterMap_cons_some turned, ReviewFacts.gather, ← ih]
          simp only [Option.map_some, Option.getD_some]
          cases facts.answer turn with
          | error failure => rfl
          | ok found => cases visits.mapM (rule.visit facts) <;> rfl

/-- A review gathers the findings of its turns. -/
theorem Reviewer.findings_eq_gather :
    Reviewer.findings facts rules = facts.gather (facts.turns rules) := by
  unfold Reviewer.findings ReviewFacts.turns
  induction Reviewer.scheduled rules with
  | nil => rfl
  | cons rule scheduled ih =>
      rw [List.mapM_cons, List.flatMap_cons, ReviewFacts.gather_append, ← ih, Rule.run_eq_gather]
      cases facts.gather ((facts.visits rule.kind).filterMap rule.turn?) with
      | error failure => rfl
      | ok found => cases scheduled.mapM fun rule => rule.run facts <;> rfl

theorem ReviewFacts.answer_of_report {found : List Finding}
    (answered : call.report facts = .ok found) : facts.answer (.ok call) = .ok found := by
  unfold answer Rule.guarded
  unfold Call.report at answered
  simp only [answered]

theorem ReviewFacts.kind_of_mem_visits {element : Element} {kind : RuleKind}
    (visited : .ok element ∈ facts.visits kind) : element.kind = kind := by
  cases kind with
  | spec =>
      cases List.mem_singleton.mp visited
      rfl
  | path | operation | schema =>
      obtain ⟨_, _, same⟩ := List.mem_map.mp visited
      cases same
      rfl
  | parameter =>
      obtain ⟨operation, _, inside⟩ := List.mem_flatMap.mp visited
      obtain ⟨_, _, same⟩ := List.mem_map.mp inside
      cases same
      rfl
  | property =>
      obtain ⟨⟨name, schema⟩, _, inside⟩ := List.mem_flatMap.mp visited
      cases schema with
      | object members =>
          simp only [propertyVisits] at inside
          split at inside
          · obtain ⟨_, _, same⟩ := List.mem_map.mp inside
            cases same
            rfl
          · cases List.mem_singleton.mp inside
      | _ => cases inside

/-- A rule is called for the elements of its kind that its filters let through. -/
theorem ReviewFacts.mem_turns (among : .ok call ∈ facts.turns rules) :
    call.rule ∈ rules ∧ .ok call.element ∈ facts.visits call.rule.kind ∧
      call.rule.covers call.element = true := by
  obtain ⟨rule, listed, among⟩ := List.mem_flatMap.mp among
  obtain ⟨visit, visited, turned⟩ := List.mem_filterMap.mp among
  cases visit with
  | error fault => cases turned
  | ok element =>
      rw [Rule.turn?] at turned
      split at turned
      · rename_i covered
        cases turned
        exact ⟨mem_scheduled listed, visited, covered⟩
      · cases turned

/-! ## Results -/

/-- The findings that a review shows: warnings of a strict review are errors. -/
def Reviewer.shown (reviewer : Reviewer) (found : List Finding) : List Finding :=
  if reviewer.settings.strict then found.map Finding.promoted else found

/-- The section of a document about itself. -/
def ReviewFacts.info (facts : ReviewFacts) : Members :=
  ((Members.get? facts.spec "info").bind Node.members?).getD []

/-- The result of a review that found what it found. -/
def Reviewer.result (reviewer : Reviewer) (facts : ReviewFacts) (specPath? title? : Option String)
    (found : List Finding) : ReviewResult where
  specPath? := specPath?
  specTitle? := title?
  specVersion? := Reviewer.version? facts.info
  findings := reviewer.shown found
  summary := summarize (reviewer.shown found)
  metadata := ⟨reviewerVersion, Int.ofNat reviewer.activeRules.length⟩

section Results

variable {reviewer : Reviewer} {spec : Node} {specPath? : Option String} {result : ReviewResult}
  {settings other : Settings} {vocabulary : Vocabulary}

theorem Reviewer.review_of_facts
    (derived : ReviewFacts.ofSpec spec reviewer.settings reviewer.vocabulary = .ok facts) :
    reviewer.review spec specPath? = (do
      let found ← facts.gather (facts.turns reviewer.activeRules)
      let title? ← Reviewer.title? facts.info
      .ok (reviewer.result facts specPath? title? found)) := by
  unfold Reviewer.review
  simp only [derived, ← Reviewer.findings_eq_gather]
  rfl

theorem Reviewer.review_of_fault {fault : Fault}
    (stuck : ReviewFacts.ofSpec spec reviewer.settings reviewer.vocabulary = .error fault) :
    reviewer.review spec specPath? = .error (.fault fault) := by
  unfold Reviewer.review
  simp only [stuck]
  rfl

/-- A review has a result when the facts of the document can be derived, the walk over its elements
comes to an end and its title is a text. -/
theorem Reviewer.review_ok_iff : reviewer.review spec specPath? = .ok result ↔
    ∃ facts found title?,
      ReviewFacts.ofSpec spec reviewer.settings reviewer.vocabulary = .ok facts ∧
      facts.gather (facts.turns reviewer.activeRules) = .ok found ∧
      Reviewer.title? facts.info = .ok title? ∧
      result = reviewer.result facts specPath? title? found := by
  cases derived : ReviewFacts.ofSpec spec reviewer.settings reviewer.vocabulary with
  | error fault => simp [Reviewer.review_of_fault derived]
  | ok facts =>
      rw [Reviewer.review_of_facts derived]
      constructor
      · intro reviewed
        obtain ⟨found, gathered, reviewed⟩ := bind_ok reviewed
        obtain ⟨title?, titled, reviewed⟩ := bind_ok reviewed
        cases reviewed
        exact ⟨facts, found, title?, rfl, gathered, titled, rfl⟩
      · rintro ⟨_, found, title?, same, gathered, titled, rfl⟩
        cases same
        simp [gathered, titled, bind, Except.bind]

/-- Of the facts of a document only the settings depend on the settings. -/
theorem ReviewFacts.ofSpec_under :
    ofSpec spec other vocabulary = (ofSpec spec settings vocabulary).map (·.under other) := by
  unfold ofSpec
  cases spec.singletons with
  | error fault => rfl
  | ok singletons =>
      cases operationsOf spec with
      | error fault => rfl
      | ok operations => cases spec.asObject <;> rfl

theorem ReviewFacts.turns_under (settings : Settings) :
    (facts.under settings).turns rules = facts.turns rules := rfl

end Results

end ApiReview
