import ApiReview.Proofs.Review.Calls

/-! What a review finds when fewer of its rules run. Every finding carries the id
and the category of the rule whose call it comes from, and no call takes notice of
which other calls are made, so leaving rules out leaves out their findings only. -/

set_option autoImplicit false

namespace ApiReview

/-- The reviewer with another selection of the rules that run. -/
def Reviewer.selecting (reviewer : Reviewer) (skipRules : List String)
    (categories? : Option (List Category)) : Reviewer :=
  { reviewer with settings := reviewer.settings.selecting skipRules categories? }

/-- A finding carries the id and the category of a rule. -/
def Finding.IsOf (finding : Finding) (rule : Rule) : Prop :=
  finding.ruleId = rule.id ∧ finding.category = rule.category

def Rule.passes (test : String → Category → Bool) (rule : Rule) : Bool :=
  test rule.id rule.category

def Finding.passes (test : String → Category → Bool) (finding : Finding) : Bool :=
  test finding.ruleId finding.category

variable {facts : ReviewFacts} {rule : Rule} {rules : List Rule} {turns : List Turn} {call : Call}
  {found : List Finding} {test : String → Category → Bool}

/-! ## Stamps -/

section Stamps

theorem Finding.isOf_of_stamps (stamps : rule.Stamps) {element : Element}
    (looked : rule.look facts element = .ok found) : ∀ finding ∈ found, finding.IsOf rule := by
  intro finding among
  obtain ⟨path, message, details, rfl⟩ := stamps facts element found looked finding among
  exact ⟨rfl, rfl⟩

/-- The findings of a call are of its rule, also the one that stands for its failure. -/
theorem ReviewFacts.isOf_of_answer (stamps : call.rule.Stamps)
    (answered : facts.answer (.ok call) = .ok found) : ∀ finding ∈ found, finding.IsOf call.rule := by
  change call.rule.guarded facts call.element = .ok found at answered
  unfold Rule.guarded at answered
  split at answered
  · rename_i looked
    cases answered
    exact Finding.isOf_of_stamps stamps looked
  · split at answered
    · cases answered
    · split at answered
      · cases answered
      · cases answered
        intro finding among
        cases List.mem_singleton.mp among
        exact ⟨rfl, rfl⟩
      · cases answered
        intro finding among
        cases among

theorem Rule.rule_of_turn? {visit : Visit} (turned : rule.turn? visit = some (.ok call)) :
    call.rule = rule := by
  cases visit with
  | error fault => cases turned
  | ok element =>
      rw [Rule.turn?] at turned
      split at turned
      · cases turned
        rfl
      · cases turned

theorem ReviewFacts.isOf_of_gather (stamps : rule.Stamps)
    (own : ∀ call, .ok call ∈ turns → call.rule = rule) (gathered : facts.gather turns = .ok found) :
    ∀ finding ∈ found, finding.IsOf rule := by
  induction turns generalizing found with
  | nil =>
      cases gathered
      intro finding among
      cases among
  | cons turn rest ih =>
      unfold ReviewFacts.gather at gathered
      obtain ⟨first, answered, gathered⟩ := bind_ok gathered
      obtain ⟨later, walked, gathered⟩ := bind_ok gathered
      cases gathered
      intro finding among
      rcases List.mem_append.mp among with here | behind
      · cases turn with
        | error fault => cases answered
        | ok call =>
            have same := own call List.mem_cons_self
            exact same ▸ ReviewFacts.isOf_of_answer (same ▸ stamps) answered finding here
      · exact ih (fun call among => own call (List.mem_cons_of_mem _ among)) walked finding behind

theorem Finding.passes_of_isOf {finding : Finding} (own : finding.IsOf rule) :
    finding.passes test = rule.passes test := by
  unfold Finding.passes Rule.passes
  rw [own.1, own.2]

end Stamps

/-! ## Leaving rules out -/

section Filtered

theorem Reviewer.scheduled_filter (admitted : Rule → Bool) :
    Reviewer.scheduled (rules.filter admitted) = (Reviewer.scheduled rules).filter admitted := by
  unfold Reviewer.scheduled
  simp only [List.filter_flatMap, List.filter_filter, Bool.and_comm]

/-- Where some rules are left out, the findings of the others stay as they are, in order. -/
theorem ReviewFacts.gather_filter (stamps : ∀ rule ∈ rules, rule.Stamps)
    (gathered : facts.gather (facts.turns rules) = .ok found) :
    facts.gather (facts.turns (rules.filter (Rule.passes test))) =
      .ok (found.filter (Finding.passes test)) := by
  unfold ReviewFacts.turns at gathered ⊢
  rw [Reviewer.scheduled_filter]
  have listed : ∀ rule ∈ Reviewer.scheduled rules, rule.Stamps :=
    fun rule among => stamps rule (mem_scheduled among)
  -- rule by rule: one that is left out takes its own findings along and no others
  generalize Reviewer.scheduled rules = scheduled at gathered listed ⊢
  induction scheduled generalizing found with
  | nil =>
      cases gathered
      rfl
  | cons rule rest ih =>
      rw [List.flatMap_cons, ReviewFacts.gather_append] at gathered
      obtain ⟨first, answered, gathered⟩ := bind_ok gathered
      obtain ⟨later, walked, gathered⟩ := bind_ok gathered
      cases gathered
      have behind := ih walked fun rule among => listed rule (List.mem_cons_of_mem _ among)
      have own : ∀ finding ∈ first, finding.passes test = rule.passes test := by
        intro finding among
        refine Finding.passes_of_isOf
          (ReviewFacts.isOf_of_gather (listed rule List.mem_cons_self) ?_ answered finding among)
        intro call turned
        obtain ⟨visit, -, same⟩ := List.mem_filterMap.mp turned
        exact Rule.rule_of_turn? same
      rw [List.filter_append]
      cases passed : rule.passes test with
      | true =>
          have all_kept : first.filter (Finding.passes test) = first :=
            List.filter_eq_self.mpr fun finding among => (own finding among).trans passed
          rw [List.filter_cons_of_pos passed, List.flatMap_cons, ReviewFacts.gather_append,
            answered, behind, all_kept]
          rfl
      | false =>
          have none_kept : first.filter (Finding.passes test) = [] := by
            refine List.filter_eq_nil_iff.mpr fun finding among => ?_
            rw [own finding among, passed]
            exact Bool.false_ne_true
          rw [List.filter_cons_of_neg (Bool.eq_false_iff.mp passed), behind, none_kept,
            List.nil_append]

theorem ReviewFacts.gather_under {settings : Settings}
    (ignores : ∀ call, .ok call ∈ turns →
      call.rule.look (facts.under settings) call.element = call.rule.look facts call.element)
    (same_policy : settings.onRuleError = facts.settings.onRuleError) :
    (facts.under settings).gather turns = facts.gather turns := by
  induction turns with
  | nil => rfl
  | cons turn rest ih =>
      unfold ReviewFacts.gather
      have answered : (facts.under settings).answer turn = facts.answer turn := by
        cases turn with
        | error fault => rfl
        | ok call =>
            change call.rule.guarded (facts.under settings) call.element =
              call.rule.guarded facts call.element
            unfold Rule.guarded
            rw [ignores call List.mem_cons_self,
              show (facts.under settings).settings.onRuleError = _ from same_policy]
      rw [answered, ih fun call among => ignores call (List.mem_cons_of_mem _ among)]

end Filtered

/-! ## Reviews -/

section Reviews

variable {reviewer : Reviewer} {spec : Node} {specPath? : Option String} {result : ReviewResult}

theorem Finding.passes_promoted (finding : Finding) :
    finding.promoted.passes test = finding.passes test := by
  unfold Finding.promoted
  split <;> rfl

theorem Reviewer.shown_filter :
    reviewer.shown (found.filter (Finding.passes test)) =
      (reviewer.shown found).filter (Finding.passes test) := by
  unfold Reviewer.shown
  split
  · rw [List.filter_map]
    simp only [Function.comp_def, Finding.passes_promoted]
  · rfl

/-- A selection under which a part of the rules runs yields the findings of that part. -/
theorem Reviewer.review_selecting {skipRules : List String} {categories? : Option (List Category)}
    (stamps : ∀ rule ∈ reviewer.activeRules, rule.Stamps)
    (ignores : ∀ rule ∈ reviewer.activeRules, rule.IgnoresSelection)
    (part : (reviewer.selecting skipRules categories?).activeRules =
      reviewer.activeRules.filter (Rule.passes test))
    (reviewed : reviewer.review spec specPath? = .ok result) :
    ∃ left, (reviewer.selecting skipRules categories?).review spec specPath? = .ok left ∧
      left.findings = result.findings.filter (Finding.passes test) := by
  obtain ⟨facts, found, title?, derived, gathered, titled, rfl⟩ := Reviewer.review_ok_iff.mp reviewed
  obtain ⟨-, own, -⟩ := ReviewFacts.ofSpec_ok derived
  have changed : ReviewFacts.ofSpec spec (reviewer.selecting skipRules categories?).settings
      (reviewer.selecting skipRules categories?).vocabulary =
        .ok (facts.under (facts.settings.selecting skipRules categories?)) := by
    rw [own]
    exact ReviewFacts.ofSpec_under.trans (congrArg _ derived)
  have left : facts.gather (facts.turns (reviewer.activeRules.filter (Rule.passes test))) = _ :=
    ReviewFacts.gather_filter stamps gathered
  refine ⟨_, Reviewer.review_ok_iff.mpr ⟨_, _, title?, changed, ?_, titled, rfl⟩,
    Reviewer.shown_filter⟩
  have called : ∀ call, .ok call ∈ facts.turns (reviewer.activeRules.filter (Rule.passes test)) →
      call.rule ∈ reviewer.activeRules :=
    fun call among => (List.mem_filter.mp (ReviewFacts.mem_turns among).1).1
  rw [ReviewFacts.turns_under, part, ← left]
  exact ReviewFacts.gather_under (fun call among =>
    ignores call.rule (called call among) facts skipRules categories? call.element) rfl

variable (stamps : ∀ rule ∈ reviewer.registry.all, rule.Stamps)
  (ignores : ∀ rule ∈ reviewer.registry.all, rule.IgnoresSelection)

theorem Reviewer.activeRules_selecting {skipRules : List String}
    {categories? : Option (List Category)}
    (part : ∀ rule, Reviewer.isActive (reviewer.settings.selecting skipRules categories?) rule =
      (rule.passes test && Reviewer.isActive reviewer.settings rule)) :
    (reviewer.selecting skipRules categories?).activeRules =
      reviewer.activeRules.filter (Rule.passes test) := by
  unfold Reviewer.activeRules
  rw [List.filter_filter]
  exact List.filter_congr fun rule _ => part rule

theorem Reviewer.activeRules_skipping (skipped : List String) :
    (reviewer.selecting (reviewer.settings.skipRules ++ skipped)
        reviewer.settings.categories?).activeRules =
      reviewer.activeRules.filter (Rule.passes fun id _ => !skipped.contains id) := by
  refine Reviewer.activeRules_selecting fun rule => ?_
  unfold Reviewer.isActive Rule.passes Settings.selecting
  simp only [List.contains_append, Bool.not_or]
  cases reviewer.settings.skipRules.contains rule.id <;> cases skipped.contains rule.id <;> rfl

theorem Reviewer.activeRules_categories (unset : reviewer.settings.categories? = none)
    (categories : List Category) :
    (reviewer.selecting reviewer.settings.skipRules (some categories)).activeRules =
      reviewer.activeRules.filter (Rule.passes fun _ category => categories.contains category) := by
  refine Reviewer.activeRules_selecting fun rule => ?_
  unfold Reviewer.isActive Rule.passes Settings.selecting
  simp only [unset, Option.all_none, Option.all_some, Bool.and_true]
  exact Bool.and_comm _ _

end Reviews

/-- A reviewer with a rule that fails on every document, and one of another category that has
something to say on it; failures are recorded. -/
def failingAndTalking : Reviewer where
  settings := { onRuleError := .record }
  registry := ⟨[(1,
    [⟨⟨"acme/failing", "Failing", .warning, "", none, some .errors, none, none⟩,
      Script.toCheck { messages := ["lost"], failure? := some ("ValueError", "boom") } .spec⟩,
     ⟨⟨"acme/talking", "Talking", .warning, "", none, some .naming, none, none⟩,
      Script.toCheck { messages := ["first", "second"] } .spec⟩])]⟩

end ApiReview
