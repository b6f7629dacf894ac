import ApiReview.Proofs.Review.Calls
import ApiReview.Rule.Scripted

/-! What the three policies for failures make of a review. The calls, the answers
and the fault that may end the walk are the same under each; a policy decides only
what stands for a call that fails: nothing, a finding, or the end of the review. -/

set_option autoImplicit false

namespace ApiReview

/-- The course of a walk: the calls that are made with their answers, and the fault that ends the
walk, if one does. -/
structure ReviewCourse where
  answered : List (Call × Report) := []
  stop? : Option Fault := none

/-- The course of several turns. -/
def ReviewFacts.course (facts : ReviewFacts) : List Turn → ReviewCourse
  | [] => {}
  | .error fault :: _ => { stop? := some fault }
  | .ok call :: rest =>
    let later := facts.course rest
    { later with answered := (call, call.report facts) :: later.answered }

/-- The course of a review. A document whose facts cannot be derived is not walked over. -/
def Reviewer.course (reviewer : Reviewer) (spec : Node) : ReviewCourse :=
  match ReviewFacts.ofSpec spec reviewer.settings reviewer.vocabulary with
  | .ok facts => facts.course (facts.turns reviewer.activeRules)
  | .error fault => { stop? := some fault }

/-- The reviewer with another policy for failures. -/
def Reviewer.onFailure (reviewer : Reviewer) (policy : FailurePolicy) : Reviewer :=
  { reviewer with settings := reviewer.settings.onFailure policy }

/-- The finding that stands for a call that fails. -/
def Call.failure (call : Call) (cause : Fault) : Finding :=
  call.rule.failureFinding call.element.location cause

/-- What a failing call leaves behind where failures are recorded. -/
def Call.recorded (call : Call) (cause : Fault) : List Finding := [call.failure cause]

/-- What a failing call leaves behind where failures are passed over. -/
def Call.passedOver (_call : Call) (_cause : Fault) : List Finding := []

namespace ReviewCourse

/-- The findings of a course, with something in the place of each call that fails. -/
def findings (course : ReviewCourse) (inPlace : Call → Fault → List Finding)
    (shown : List Finding → List Finding) : List Finding :=
  course.answered.flatMap fun (call, report) =>
    match report with
    | .ok found => shown found
    | .error cause => inPlace call cause

/-- The findings that stand for the calls that fail. -/
def failures (course : ReviewCourse) : List Finding :=
  course.findings Call.recorded fun _ => []

/-- The failure of an answered call, if it failed. -/
def failed? : Call × Report → Option (Call × Fault)
  | (call, .error cause) => some (call, cause)
  | (_, .ok _) => none

/-- The first call that fails, and the cause. -/
def firstFailure? (course : ReviewCourse) : Option (Call × Fault) := course.answered.findSome? failed?

/-- No rule of the course failed as one does that is asked for another kind of element. -/
def IsApt (course : ReviewCourse) : Prop :=
  ∀ call cause, (call, Except.error cause) ∈ course.answered → cause.isWrongRuleKind = false

end ReviewCourse

variable {facts : ReviewFacts} {turns : List Turn} {call : Call} {cause : Fault}

/-! ## Turns -/

section Gathering

theorem ReviewCourse.isApt_of_cons {rest : List Turn} (apt : (facts.course (.ok call :: rest)).IsApt) :
    (facts.course rest).IsApt :=
  fun other cause among => apt other cause (List.mem_cons_of_mem _ among)

theorem ReviewFacts.answer_of_failure (answered : call.report facts = .error cause)
    (apt : cause.isWrongRuleKind = false) :
    facts.answer (.ok call) =
      match facts.settings.onRuleError with
      | .raise => .error (.rule call.rule.id call.element.location cause)
      | .record => .ok (call.recorded cause)
      | .log => .ok (call.passedOver cause) := by
  unfold ReviewFacts.answer Rule.guarded
  unfold Call.report at answered
  simp only [answered, apt, Bool.false_eq_true, if_false]
  rfl

/-- Where no failure ends the review, only the walk itself can. -/
theorem ReviewFacts.gather_of_inPlace {inPlace : Call → Fault → List Finding}
    (replaced : ∀ call cause, call.report facts = .error cause →
      cause.isWrongRuleKind = false → facts.answer (.ok call) = .ok (inPlace call cause))
    (apt : (facts.course turns).IsApt) :
    facts.gather turns =
      match (facts.course turns).stop? with
      | some fault => .error (.fault fault)
      | none => .ok ((facts.course turns).findings inPlace id) := by
  induction turns with
  | nil => rfl
  | cons turn rest ih =>
      cases turn with
      | error fault => rfl
      | ok call =>
          have later := ih (ReviewCourse.isApt_of_cons apt)
          rw [gather, later]
          have answered : facts.answer (.ok call) = .ok (match call.report facts with
              | .ok found => found
              | .error cause => inPlace call cause) := by
            cases report : call.report facts with
            | ok found => exact answer_of_report report
            | error cause =>
                refine replaced call cause report (apt call cause ?_)
                simp [course, report]
          rw [answered]
          cases stopped : (facts.course rest).stop? with
          | some fault => simp [course, stopped, bind, Except.bind]
          | none => simp [course, stopped, bind, Except.bind, ReviewCourse.findings]

/-- Where failures end the review, the first one does if there is one, and else nothing differs. -/
theorem ReviewFacts.gather_of_raise (policy : facts.settings.onRuleError = .raise)
    (apt : (facts.course turns).IsApt) :
    facts.gather turns =
      match (facts.course turns).firstFailure? with
      | some (call, cause) => .error (.rule call.rule.id call.element.location cause)
      | none =>
        match (facts.course turns).stop? with
        | some fault => .error (.fault fault)
        | none => .ok ((facts.course turns).findings Call.passedOver id) := by
  induction turns with
  | nil => rfl
  | cons turn rest ih =>
      cases turn with
      | error fault => rfl
      | ok call =>
          have later := ih (ReviewCourse.isApt_of_cons apt)
          rw [gather]
          cases report : call.report facts with
          | error cause =>
              have other := apt call cause (by simp [course, report])
              rw [answer_of_failure report other]
              simp only [policy, course, report, ReviewCourse.firstFailure?, List.findSome?_cons,
                ReviewCourse.failed?]
              rfl
          | ok found =>
              rw [answer_of_report report, later]
              simp only [ReviewCourse.firstFailure?, course, report, List.findSome?_cons]
              cases (facts.course rest).answered.findSome? ReviewCourse.failed? with
              | some failed => rfl
              | none =>
                  cases stopped : (facts.course rest).stop? with
                  | some fault => simp [ReviewCourse.failed?, bind, Except.bind]
                  | none => simp [ReviewCourse.failed?, bind, Except.bind, ReviewCourse.findings]

end Gathering

/-! ## Courses -/

namespace ReviewCourse

variable {course : ReviewCourse} {reviewer : Reviewer}

theorem head?_failures :
    course.failures.head? = course.firstFailure?.map fun (call, cause) => call.failure cause := by
  unfold failures findings firstFailure?
  induction course.answered with
  | nil => rfl
  | cons answer answered ih =>
      obtain ⟨call, report⟩ := answer
      cases report with
      | error cause => rfl
      | ok found => exact ih

theorem findings_of_no_failure (first second : Call → Fault → List Finding)
    (shown : List Finding → List Finding) (none_fails : course.firstFailure? = none) :
    course.findings first shown = course.findings second shown := by
  unfold findings
  refine List.flatMap_congr fun (call, report) among => ?_
  have answered := List.findSome?_eq_none_iff.mp none_fails (call, report) among
  cases report with
  | ok found => rfl
  | error cause => cases answered

/-- Promotion touches no finding that stands for a failure, as these are errors already. -/
theorem shown_findings {inPlace : Call → Fault → List Finding}
    (errors : ∀ call cause, reviewer.shown (inPlace call cause) = inPlace call cause) :
    reviewer.shown (course.findings inPlace id) = course.findings inPlace reviewer.shown := by
  have shown_append : ∀ first second,
      reviewer.shown (first ++ second) = reviewer.shown first ++ reviewer.shown second := by
    intro first second
    unfold Reviewer.shown
    split <;> simp
  unfold findings
  induction course.answered with
  | nil =>
      unfold Reviewer.shown
      split <;> rfl
  | cons answer answered ih =>
      obtain ⟨call, report⟩ := answer
      simp only [List.flatMap_cons, shown_append, ih]
      cases report with
      | error cause => simp [errors]
      | ok found => rfl

end ReviewCourse

theorem Reviewer.shown_recorded (reviewer : Reviewer) (call : Call) (cause : Fault) :
    reviewer.shown (call.recorded cause) = call.recorded cause := by
  unfold Reviewer.shown
  split <;> rfl

theorem Reviewer.shown_passedOver (reviewer : Reviewer) (call : Call) (cause : Fault) :
    reviewer.shown (call.passedOver cause) = call.passedOver cause := by
  unfold Reviewer.shown
  split <;> rfl

theorem ReviewFacts.mem_course {report : Report}
    (among : (call, report) ∈ (facts.course turns).answered) :
    .ok call ∈ turns ∧ call.report facts = report := by
  induction turns with
  | nil => cases among
  | cons turn rest ih =>
      cases turn with
      | error fault => cases among
      | ok first =>
          rcases List.mem_cons.mp among with here | later
          · cases here
            exact ⟨List.mem_cons_self, rfl⟩
          · obtain ⟨inside, answered⟩ := ih later
            exact ⟨List.mem_cons_of_mem _ inside, answered⟩

theorem ReviewFacts.course_under {policy : FailurePolicy}
    (ignores : ∀ call, .ok call ∈ turns → call.rule.IgnoresPolicy) :
    (facts.under (facts.settings.onFailure policy)).course turns = facts.course turns := by
  induction turns with
  | nil => rfl
  | cons turn rest ih =>
      have later := ih fun call among => ignores call (List.mem_cons_of_mem _ among)
      cases turn with
      | error fault => rfl
      | ok call =>
          have answered : call.report (facts.under (facts.settings.onFailure policy)) =
              call.report facts := ignores call List.mem_cons_self facts policy call.element
          simp only [course, later, answered]

/-! ## Reviews -/

section Reviews

variable {reviewer : Reviewer} {spec : Node} {specPath? : Option String} {policy : FailurePolicy}
  (ignores : ∀ rule ∈ reviewer.registry.all, rule.IgnoresPolicy)
  (knows : ∀ rule ∈ reviewer.registry.all, rule.KnowsItsKind)

theorem Reviewer.mem_activeRules {rule : Rule} (active : rule ∈ reviewer.activeRules) :
    rule ∈ reviewer.registry.all ∨ rule ∈ Registry.standard.all :=
  mem_orStandard (List.mem_filter.mp active).1

include knows in
theorem Reviewer.course_isApt : (reviewer.course spec).IsApt := by
  intro call cause among
  unfold Reviewer.course at among
  split at among
  · rename_i facts derived
    obtain ⟨called, answered⟩ := ReviewFacts.mem_course among
    obtain ⟨active, visited, _⟩ := ReviewFacts.mem_turns called
    have own := ReviewFacts.kind_of_mem_visits visited
    rcases Reviewer.mem_activeRules active with given | builtIn
    · exact knows call.rule given facts call.element cause own answered
    · exact (standard_isProper builtIn).knowsItsKind facts call.element cause own answered
  · cases among

theorem Reviewer.ofSpec_onFailure :
    ReviewFacts.ofSpec spec (reviewer.onFailure policy).settings
        (reviewer.onFailure policy).vocabulary =
      (ReviewFacts.ofSpec spec reviewer.settings reviewer.vocabulary).map
        (·.under (reviewer.onFailure policy).settings) :=
  ReviewFacts.ofSpec_under

include ignores in
/-- The course of a review is the same under each policy. -/
theorem Reviewer.course_onFailure (policy : FailurePolicy) :
    (reviewer.onFailure policy).course spec = reviewer.course spec := by
  unfold Reviewer.course
  rw [Reviewer.ofSpec_onFailure]
  cases derived : ReviewFacts.ofSpec spec reviewer.settings reviewer.vocabulary with
  | error fault => rfl
  | ok facts =>
      obtain ⟨_, own, _⟩ := ReviewFacts.ofSpec_ok derived
      simp only [Except.map]
      have turned : (facts.under (reviewer.onFailure policy).settings).turns
          (reviewer.onFailure policy).activeRules = facts.turns reviewer.activeRules := rfl
      rw [turned, show (reviewer.onFailure policy).settings = facts.settings.onFailure policy from
        own ▸ rfl]
      refine ReviewFacts.course_under fun call called => ?_
      rcases Reviewer.mem_activeRules (ReviewFacts.mem_turns called).1 with given | builtIn
      · exact ignores call.rule given
      · exact (standard_ignores builtIn).2

/-- How a review ends that no failure of a rule ends: with what makes a result of its findings. -/
def Reviewer.ending (reviewer : Reviewer) (spec : Node) (specPath? : Option String) :
    Except ReviewFailure (List Finding → ReviewResult) := do
  let facts ←
    (ReviewFacts.ofSpec spec reviewer.settings reviewer.vocabulary).mapError ReviewFailure.fault
  match (reviewer.course spec).stop? with
  | some fault => .error (.fault fault)
  | none =>
    let title? ← Reviewer.title? facts.info
    .ok (reviewer.result facts specPath? title?)

theorem Reviewer.result_of_ending {conclude : List Finding → ReviewResult}
    (ended : reviewer.ending spec specPath? = .ok conclude) :
    ∃ facts title?, conclude = reviewer.result facts specPath? title? := by
  unfold Reviewer.ending at ended
  obtain ⟨facts, -, ended⟩ := bind_ok ended
  split at ended
  · cases ended
  · obtain ⟨title?, -, ended⟩ := bind_ok ended
    cases ended
    exact ⟨facts, title?, rfl⟩

/-- The failure of a rule is no way for the walk or the reading of the title to end. -/
theorem Reviewer.ending_ne_rule {id location : String} :
    reviewer.ending spec specPath? ≠ .error (.rule id location cause) := by
  unfold Reviewer.ending
  cases ReviewFacts.ofSpec spec reviewer.settings reviewer.vocabulary with
  | error fault => nofun
  | ok facts =>
      simp only [Except.mapError, bind, Except.bind]
      cases (reviewer.course spec).stop? with
      | some fault => nofun
      | none =>
          unfold Reviewer.title?
          cases Members.get? facts.info "title" with
          | none => nofun
          | some title => cases title <;> nofun

include ignores knows in
theorem Reviewer.review_onFailure (specPath? : Option String) (policy : FailurePolicy)
    (derived : ReviewFacts.ofSpec spec reviewer.settings reviewer.vocabulary = .ok facts) :
    ∃ own : ReviewFacts, own.settings.onRuleError = policy ∧
      own.course (facts.turns reviewer.activeRules) = reviewer.course spec ∧
      (reviewer.course spec).IsApt ∧
      (reviewer.onFailure policy).review spec specPath? = (do
        let found ← own.gather (facts.turns reviewer.activeRules)
        let title? ← Reviewer.title? facts.info
        .ok (reviewer.result facts specPath? title? found)) := by
  have changed : ReviewFacts.ofSpec spec (reviewer.onFailure policy).settings
      (reviewer.onFailure policy).vocabulary =
        .ok (facts.under (reviewer.onFailure policy).settings) := by
    rw [ofSpec_onFailure, derived]
    rfl
  refine ⟨facts.under (reviewer.onFailure policy).settings, rfl, ?_,
    Reviewer.course_isApt knows, Reviewer.review_of_facts changed⟩
  have same : (reviewer.onFailure policy).course spec = reviewer.course spec :=
    Reviewer.course_onFailure ignores policy
  unfold Reviewer.course at same
  simp only [changed] at same
  exact same

include ignores knows in
/-- A review that no failure ends makes its result of the findings of the whole course. -/
theorem Reviewer.review_of_inPlace {inPlace : Call → Fault → List Finding}
    (replaced : ∀ facts : ReviewFacts, facts.settings.onRuleError = policy → ∀ call cause,
      call.report facts = .error cause → cause.isWrongRuleKind = false →
        facts.answer (.ok call) = .ok (inPlace call cause)) :
    (reviewer.onFailure policy).review spec specPath? =
      (reviewer.ending spec specPath?).map
        fun conclude => conclude ((reviewer.course spec).findings inPlace id) := by
  unfold Reviewer.ending
  cases derived : ReviewFacts.ofSpec spec reviewer.settings reviewer.vocabulary with
  | error fault =>
      apply Reviewer.review_of_fault
      rw [ofSpec_onFailure, derived]
      rfl
  | ok facts =>
      obtain ⟨own, policy, course, apt, reviewed⟩ :=
        Reviewer.review_onFailure ignores knows specPath? policy derived
      have gathered := ReviewFacts.gather_of_inPlace (replaced own policy) (course ▸ apt)
      rw [reviewed, gathered, course]
      cases (reviewer.course spec).stop? with
      | some fault => rfl
      | none =>
          simp only [Except.mapError, bind, Except.bind]
          cases Reviewer.title? facts.info <;> rfl

include ignores knows in
/-- A review that failures end is ended by the first one, if there is one. -/
theorem Reviewer.review_of_raise :
    (reviewer.onFailure .raise).review spec specPath? =
      match (reviewer.course spec).firstFailure? with
      | some (call, cause) => .error (.rule call.rule.id call.element.location cause)
      | none =>
        (reviewer.ending spec specPath?).map
          fun conclude => conclude ((reviewer.course spec).findings Call.passedOver id) := by
  unfold Reviewer.ending
  cases derived : ReviewFacts.ofSpec spec reviewer.settings reviewer.vocabulary with
  | error fault =>
      have course : reviewer.course spec = { stop? := some fault } := by
        unfold Reviewer.course
        rw [derived]
      rw [course]
      apply Reviewer.review_of_fault
      rw [ofSpec_onFailure, derived]
      rfl
  | ok facts =>
      obtain ⟨own, policy, course, apt, reviewed⟩ :=
        Reviewer.review_onFailure ignores knows specPath? .raise derived
      have gathered := ReviewFacts.gather_of_raise policy (course ▸ apt)
      rw [reviewed, gathered, course]
      cases (reviewer.course spec).firstFailure? with
      | some failed => rfl
      | none =>
          cases (reviewer.course spec).stop? with
          | some fault => rfl
          | none =>
              simp only [Except.mapError, bind, Except.bind]
              cases Reviewer.title? facts.info <;> rfl

include ignores knows in
theorem Reviewer.review_of_record :
    (reviewer.onFailure .record).review spec specPath? =
      (reviewer.ending spec specPath?).map
        fun conclude => conclude ((reviewer.course spec).findings Call.recorded id) := by
  refine Reviewer.review_of_inPlace ignores knows fun facts policy call cause answered apt => ?_
  rw [ReviewFacts.answer_of_failure answered apt, policy]

include ignores knows in
theorem Reviewer.review_of_log :
    (reviewer.onFailure .log).review spec specPath? =
      (reviewer.ending spec specPath?).map
        fun conclude => conclude ((reviewer.course spec).findings Call.passedOver id) := by
  refine Reviewer.review_of_inPlace ignores knows fun facts policy call cause answered apt => ?_
  rw [ReviewFacts.answer_of_failure answered apt, policy]

theorem ReviewCourse.firstFailure?_eq_none_iff {course : ReviewCourse} :
    course.firstFailure? = none ↔ course.failures = [] := by
  rw [← List.head?_eq_none_iff, ReviewCourse.head?_failures, Option.map_eq_none_iff]

end Reviews

/-- A reviewer with a rule that fails on every operation, and one that has something to say on it. -/
def eagerAndFailing : Reviewer where
  registry := ⟨[(1,
    [⟨⟨"acme/failing", "Failing", .warning, "", none, none, none, none⟩,
      Script.toCheck { messages := ["lost"], failure? := some ("ValueError", "boom") } .operation⟩,
     ⟨⟨"acme/eager", "Eager", .warning, "", none, none, none, none⟩,
      Script.toCheck { messages := ["seen"] } .operation⟩])]⟩

def listingOnly : Node :=
  .object [(.str "paths", .object [(.str "/users", .object [(.str "get", .object [])])])]

end ApiReview
