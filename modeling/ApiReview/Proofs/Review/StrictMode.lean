import ApiReview.Proofs.Review.Selection

/-! What strict mode changes. A review reads whether it is strict once, after all rules
have answered, and then promotes the warnings among the findings; anything else that
differs between the two modes is the doing of rules that read the settings. The
summary is counted from the findings, so it can be told from the other one. -/

set_option autoImplicit false

namespace ApiReview

/-- The settings of a strict review, or of one that is not. -/
def Settings.beingStrict (settings : Settings) (strict : Bool) : Settings :=
  { settings with strict }

/-- The reviewer in strict mode, or out of it. -/
def Reviewer.beingStrict (reviewer : Reviewer) (strict : Bool) : Reviewer :=
  { reviewer with settings := reviewer.settings.beingStrict strict }

/-- The facts as rules see them in strict mode, or out of it. -/
def ReviewFacts.beingStrict (facts : ReviewFacts) (strict : Bool) : ReviewFacts :=
  facts.under (facts.settings.beingStrict strict)

/-- A rule does not read whether the review is strict. -/
def Rule.IgnoresStrictness (rule : Rule) : Prop :=
  ∀ (facts : ReviewFacts) strict element,
    rule.look (facts.beingStrict strict) element = rule.look facts element

/-! ## Rules that are told the mode -/

def RuleContext.told (context : RuleContext) (strict : Bool) : RuleContext :=
  { context with facts := context.facts.beingStrict strict }

/-- The check that is told whether the review is strict, whatever the settings say. -/
def Check.told (strict : Bool) : Check → Check
  | .spec look => .spec fun context => look (context.told strict)
  | .path look => .path fun context => look (context.told strict)
  | .operation look => .operation fun context => look (context.told strict)
  | .parameter look => .parameter fun context => look (context.told strict)
  | .schema look => .schema fun context => look (context.told strict)
  | .property look => .property fun context => look (context.told strict)

/-- The rule that is told whether the review is strict, whatever the settings say. -/
def Rule.told (strict : Bool) (rule : Rule) : Rule := { rule with check := rule.check.told strict }

/-- The registry of the rules that are told whether the review is strict. -/
def Registry.told (strict : Bool) (registry : Registry) : Registry :=
  ⟨registry.groups.map fun (number, rules) => (number, rules.map (Rule.told strict))⟩

/-- The reviewer whose rules are told whether the review is strict, whatever its settings say. -/
def Reviewer.telling (strict : Bool) (reviewer : Reviewer) : Reviewer :=
  { reviewer with registry := reviewer.registry.orStandard.told strict }

/-! ## Results in strict mode -/

def Severity.inStrictMode : Severity → Severity
  | .warning => .error
  | severity => severity

/-- A finding in strict mode: its severity may change, and nothing else. -/
def Finding.inStrictMode (finding : Finding) : Finding :=
  { finding with severity := finding.severity.inStrictMode }

/-- A summary in strict mode: what were warnings count among the errors. -/
def Summary.inStrictMode (summary : Summary) : Summary :=
  { summary with errors := summary.errors + summary.warnings, warnings := 0 }

/-- A result in strict mode. -/
def ReviewResult.inStrictMode (result : ReviewResult) : ReviewResult :=
  { result with
    findings := result.findings.map Finding.inStrictMode, summary := result.summary.inStrictMode }

section Counting

variable (findings : List Finding)

theorem Finding.promoted_eq (finding : Finding) : finding.promoted = finding.inStrictMode := by
  obtain ⟨_, severity, _, _, _, _, _, _, _, _⟩ := finding
  cases severity <;> rfl

theorem countSeverity_cons (finding : Finding) (severity : Severity) :
    countSeverity (finding :: findings) severity =
      countSeverity findings severity + if finding.severity = severity then 1 else 0 := by
  unfold countSeverity
  rw [List.countP_cons]
  split <;> simp_all

theorem countSeverity_inStrictMode :
    countSeverity (findings.map Finding.inStrictMode) .error =
      countSeverity findings .error + countSeverity findings .warning ∧
    countSeverity (findings.map Finding.inStrictMode) .warning = 0 ∧
    countSeverity (findings.map Finding.inStrictMode) .suggestion =
      countSeverity findings .suggestion := by
  induction findings with
  | nil => exact ⟨rfl, rfl, rfl⟩
  | cons finding rest ih =>
      obtain ⟨errors, warnings, suggestions⟩ := ih
      simp only [List.map_cons, countSeverity_cons, errors, warnings, suggestions,
        Finding.inStrictMode]
      cases finding.severity <;> simp [Severity.inStrictMode] <;> omega

theorem summarize_inStrictMode :
    summarize (findings.map Finding.inStrictMode) = (summarize findings).inStrictMode := by
  obtain ⟨errors, warnings, suggestions⟩ := countSeverity_inStrictMode findings
  unfold summarize Summary.inStrictMode
  rw [errors, warnings, suggestions, List.foldl_map]
  rfl

/-- Every finding is an error, a warning or a suggestion. -/
theorem countSeverity_sum :
    countSeverity findings .error + countSeverity findings .warning +
      countSeverity findings .suggestion = findings.length := by
  induction findings with
  | nil => rfl
  | cons finding rest ih =>
      simp only [countSeverity_cons, List.length_cons]
      cases finding.severity <;> simp <;> omega

theorem sum_countOne (name : String) (counts : List (String × Int)) :
    ((countOne name counts).map (·.2)).sum = (counts.map (·.2)).sum + 1 := by
  induction counts with
  | nil => rfl
  | cons entry rest ih =>
      obtain ⟨known, count⟩ := entry
      unfold countOne
      split
      · simp only [List.map_cons, List.sum_cons]
        omega
      · simp only [List.map_cons, List.sum_cons, ih]
        omega

theorem sum_byCategory :
    ((summarize findings).byCategory.map (·.2)).sum = findings.length := by
  have counted : ∀ counts : List (String × Int),
      ((findings.foldl (fun counts finding => countOne finding.category.name counts) counts).map
        (·.2)).sum = (counts.map (·.2)).sum + findings.length := by
    induction findings with
    | nil => simp
    | cons finding rest ih =>
        intro counts
        rw [List.foldl_cons, ih, sum_countOne, List.length_cons]
        omega
  simpa [summarize] using counted []

end Counting

/-! ## Rules in both modes -/

section Rules

variable {rule : Rule} {rules : List Rule} {facts : ReviewFacts} {strict : Bool}

theorem Rule.kind_told : (rule.told strict).kind = rule.kind := by
  unfold Rule.told Rule.kind
  cases rule.check <;> rfl

theorem Rule.look_told (element : Element) :
    (rule.told strict).look facts element = rule.look (facts.beingStrict strict) element := by
  obtain ⟨header, check⟩ := rule
  cases check <;> cases element <;> rfl

theorem standard_ignoresStrictness (listed : rule ∈ Registry.standard.all) :
    rule.IgnoresStrictness := by
  simp only [standard_all, List.mem_cons, List.not_mem_nil, or_false] at listed
  intro facts strict element
  rcases listed with rfl | rfl | rfl | rfl | rfl | rfl | rfl | rfl | rfl | rfl | rfl | rfl | rfl |
    rfl | rfl | rfl | rfl <;> cases element <;> rfl

theorem scripted_ignoresStrictness {script : Script} {header : RuleHeader} {kind : RuleKind} :
    (Rule.mk header (script.toCheck kind)).IgnoresStrictness := by
  intro facts strict element
  cases kind <;> cases element <;> rfl

/-- A rule that is told the mode runs as it does in that mode. -/
theorem Rule.run_told : (rule.told strict).run facts = rule.run (facts.beingStrict strict) := by
  have answered (element : Element) : (rule.told strict).guarded facts element =
      rule.guarded (facts.beingStrict strict) element := by
    unfold Rule.guarded
    rw [Rule.look_told]
    rfl
  have visited : (rule.told strict).visit facts = rule.visit (facts.beingStrict strict) := by
    funext visit
    cases visit with
    | error fault => rfl
    | ok element =>
        unfold Rule.visit
        simp only [answered]
        rfl
  unfold Rule.run
  rw [visited, Rule.kind_told]
  rfl

theorem Reviewer.scheduled_told :
    Reviewer.scheduled (rules.map (Rule.told strict)) =
      (Reviewer.scheduled rules).map (Rule.told strict) := by
  unfold Reviewer.scheduled
  simp only [List.map_flatMap, List.filter_map, Function.comp_def, Rule.kind_told]

theorem Reviewer.findings_told :
    Reviewer.findings facts (rules.map (Rule.told strict)) =
      Reviewer.findings (facts.beingStrict strict) rules := by
  unfold Reviewer.findings
  rw [Reviewer.scheduled_told, List.mapM_map]
  simp only [Function.comp_def, Rule.run_told]

theorem Reviewer.findings_of_ignores (ignores : ∀ rule ∈ rules, rule.IgnoresStrictness) :
    Reviewer.findings (facts.beingStrict strict) rules = Reviewer.findings facts rules := by
  rw [Reviewer.findings_eq_gather, Reviewer.findings_eq_gather]
  refine ReviewFacts.gather_under (fun call called => ?_) rfl
  exact ignores call.rule (ReviewFacts.mem_turns called).1 facts strict call.element

end Rules

/-! ## Reviews in both modes -/

section Reviews

variable {reviewer strictly leniently : Reviewer} {spec : Node} {specPath? : Option String}

theorem Reviewer.result_inStrictMode {facts : ReviewFacts} {title? : Option String}
    {found : List Finding} (settings : strictly.settings.strict = true)
    (lenient : leniently.settings.strict = false)
    (number : strictly.activeRules.length = leniently.activeRules.length) :
    strictly.result (facts.under strictly.settings) specPath? title? found =
      (leniently.result facts specPath? title? found).inStrictMode := by
  have shown : strictly.shown found = found.map Finding.inStrictMode := by
    unfold Reviewer.shown
    rw [settings, if_pos rfl]
    exact List.map_congr_left fun finding _ => finding.promoted_eq
  have plain : leniently.shown found = found := by
    unfold Reviewer.shown
    rw [lenient]
    rfl
  unfold Reviewer.result ReviewResult.inStrictMode
  rw [shown, plain, summarize_inStrictMode, number]
  rfl

/-- Two reviewers that find the same before anything is promoted, one of them in strict mode. -/
theorem Reviewer.review_inStrictMode
    (settings : strictly.settings = leniently.settings.beingStrict true)
    (lenient : leniently.settings.strict = false)
    (vocabulary : strictly.vocabulary = leniently.vocabulary)
    (number : strictly.activeRules.length = leniently.activeRules.length)
    (same : ∀ facts : ReviewFacts, Reviewer.findings (facts.beingStrict true) strictly.activeRules =
      Reviewer.findings facts leniently.activeRules) :
    strictly.review spec specPath? =
      (leniently.review spec specPath?).map ReviewResult.inStrictMode := by
  have changed := @ReviewFacts.ofSpec_under spec leniently.settings strictly.settings
    leniently.vocabulary
  cases derived : ReviewFacts.ofSpec spec leniently.settings leniently.vocabulary with
  | error fault =>
      rw [derived, ← vocabulary] at changed
      rw [Reviewer.review_of_fault derived, Reviewer.review_of_fault changed]
      rfl
  | ok facts =>
      obtain ⟨-, own, -⟩ := ReviewFacts.ofSpec_ok derived
      rw [derived, ← vocabulary] at changed
      rw [Reviewer.review_of_facts derived, Reviewer.review_of_facts changed,
        ← Reviewer.findings_eq_gather, ← Reviewer.findings_eq_gather, ← same]
      have told : facts.beingStrict true = facts.under strictly.settings := by
        rw [settings, ← own]
        rfl
      rw [told]
      cases Reviewer.findings (facts.under strictly.settings) strictly.activeRules with
      | error failure => rfl
      | ok found =>
          have promoted (title? : Option String) := @Reviewer.result_inStrictMode strictly leniently
            specPath? facts title? found (settings ▸ rfl) lenient number
          have titled : (facts.under strictly.settings).info = facts.info := rfl
          simp only [bind, Except.bind, titled, promoted]
          cases Reviewer.title? facts.info <;> rfl

theorem Registry.size_orStandard (registry : Registry) : registry.orStandard.size ≠ 0 := by
  unfold Registry.orStandard
  split
  · decide
  · assumption

theorem Registry.all_told (strict : Bool) (registry : Registry) :
    (registry.told strict).all = registry.all.map (Rule.told strict) := by
  unfold Registry.told Registry.all
  rw [List.flatMap_map, List.map_flatMap]

/-- A registry of rules that are told the mode is not without rules. -/
theorem Registry.orStandard_told (strict : Bool) (registry : Registry) :
    (registry.orStandard.told strict).orStandard = registry.orStandard.told strict := by
  have filled := registry.size_orStandard
  refine if_neg ?_
  unfold Registry.size at filled ⊢
  rwa [Registry.all_told, List.length_map]

theorem Reviewer.activeRules_telling (told strict : Bool) :
    ((reviewer.telling told).beingStrict strict).activeRules =
      reviewer.activeRules.map (Rule.told told) := by
  change ((reviewer.registry.orStandard.told told).orStandard.all.filter _) = _
  rw [Registry.orStandard_told, Registry.all_told, List.filter_map]
  rfl

end Reviews

/-- A reviewer with a rule that warns of every document, but not in strict mode. -/
def timidReviewer : Reviewer where
  registry := ⟨[(1, [⟨⟨"acme/timid", "Timid", .warning, "", none, none, none, none⟩,
    .spec fun context =>
      .ok (if context.facts.settings.strict then [] else [context.finding "spec" "seen" {}])⟩])]⟩

example :
    ((timidReviewer.beingStrict false).review (.object []) none).toOption.map (·.findings.length) =
      some 1 ∧
    ((timidReviewer.beingStrict true).review (.object []) none).toOption.map (·.findings.length) =
      some 0 := by
  decide +kernel

end ApiReview
