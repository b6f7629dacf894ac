import ApiReview.Patch.Session
import ApiReview.Proofs.Outcome

/-! Fixes are all or nothing over whole runs. What a session holds in the end is
what the changes of its applied fixes make of the document, and nothing else;
the log tells, change by change, how far every fix came. No shape of the
document, of an address or of a value is assumed. -/

set_option autoImplicit false

namespace ApiReview

variable {Document : Type} [Editable Document]

/-- What changes make of a document, one after the other. -/
def Change.applyAll (changes : List Change) (document : Document) :
    Except ChangeError Document :=
  changes.foldlM (fun document change => change.apply document) document

/-- The entry of a change that was made. -/
def ChangeOutcome.made (change : Change) : ChangeOutcome := ⟨change, none⟩

/-- The entry of a change that comes too late. -/
def ChangeOutcome.skipped (change : Change) : ChangeOutcome := ⟨change, some skippedMessage⟩

/-- How a fix ends on a document: committed, when each of its changes could be
made, or rolled back at the first that is refused. A fix that is rolled back
leaves the document as it was, however many changes were made before. -/
inductive FixEnding (before : Document) (fix : Fix) (ruleId : String) :
    FixOutcome → Document → Prop where
  | committed {after : Document} :
      Change.applyAll fix.changes before = .ok after →
      FixEnding before fix ruleId
        ⟨ruleId, fix.kind, true, fix.changes.map .made⟩ after
  | rolledBack {made late : List Change} {refused : Change} {working : Document}
      {error : PatchError} :
      fix.changes = made ++ refused :: late →
      Change.applyAll made before = .ok working →
      refused.apply working = .error (.refused error) →
      FixEnding before fix ruleId
        ⟨ruleId, fix.kind, false,
          made.map .made ++ ⟨refused, some error.message⟩ :: late.map .skipped⟩ before

/-- The changes of the fixes whose outcome is applied, in order. -/
def appliedChanges (fixes : List (Fix × String)) (outcomes : List FixOutcome) : List Change :=
  ((fixes.zip outcomes).filter fun entry => entry.2.applied).flatMap fun entry => entry.1.1.changes

/-- How the fix at one position of a run went: the run up to it, its own step
and the log behind it. -/
structure FixStep (session : PatchSession Document) (fixes : List (Fix × String))
    (outcomes : List FixOutcome) (position : Nat) (fix : Fix) (ruleId : String)
    (outcome : FixOutcome) (before after : PatchSession Document) : Prop where
  reached : session.applyFixes (fixes.take position) = .ok (before, outcomes.take position)
  stepped : before.applyFix fix ruleId = .ok (after, outcome)
  logged : after.log = before.log ++ [outcome]
  ended : FixEnding before.document fix ruleId outcome after.document
  entries : outcome.changes.map (·.change) = fix.changes
  whole : outcome.applied = true ↔ ∀ entry ∈ outcome.changes, entry.applied = true
  kept : outcome.applied = false → after.document = before.document

theorem Change.applyAll_cons (change : Change) (rest : List Change) (document : Document) :
    Change.applyAll (change :: rest) document =
      (change.apply document >>= fun changed => Change.applyAll rest changed) := by
  simp only [Change.applyAll, List.foldlM_cons]

theorem Change.applyAll_singleton {change : Change} {before after : Document}
    (made : Change.applyAll [change] before = .ok after) : change.apply before = .ok after := by
  rw [Change.applyAll_cons] at made
  obtain ⟨changed, applied, rest⟩ := bind_ok made
  cases rest
  exact applied

theorem Change.applyAll_append (first second : List Change) (document : Document) :
    Change.applyAll (first ++ second) document =
      (Change.applyAll first document >>= fun changed => Change.applyAll second changed) := by
  simp only [Change.applyAll, List.foldlM_append]

@[simp] theorem ChangeOutcome.applied_made (change : Change) :
    (ChangeOutcome.made change).applied = true := rfl

private theorem skippedChanges_eq (changes : List Change) :
    skippedChanges changes = changes.map .skipped := rfl

/-- Changes that end with a document were all made; those that end without one
stop at the first that is refused. -/
theorem tryChanges_ok {document : Document} {changes : List Change}
    {result? : Option Document} {entries : List ChangeOutcome}
    (tried : tryChanges document changes = .ok (result?, entries)) :
    (∃ after, result? = some after ∧ Change.applyAll changes document = .ok after ∧
      entries = changes.map .made) ∨
    (∃ made refused late working error, result? = none ∧
      changes = made ++ refused :: late ∧ Change.applyAll made document = .ok working ∧
      refused.apply working = .error (.refused error) ∧
      entries = made.map .made ++ ⟨refused, some (PatchError.message error)⟩ ::
        late.map .skipped) := by
  induction changes generalizing document result? entries with
  | nil =>
      simp only [tryChanges, Except.ok.injEq, Prod.mk.injEq] at tried
      obtain ⟨rfl, rfl⟩ := tried
      exact .inl ⟨document, rfl, rfl, rfl⟩
  | cons change rest ih =>
      rw [tryChanges] at tried
      cases applied : change.apply document with
      | ok changed =>
          rw [applied] at tried
          obtain ⟨⟨behind?, behind⟩, later, shape⟩ := bind_ok tried
          simp only [Except.ok.injEq, Prod.mk.injEq] at shape
          obtain ⟨rfl, rfl⟩ := shape
          rcases ih later with ⟨after, rfl, folded, rfl⟩ |
            ⟨made, refused, late, working, error, rfl, rfl, folded, refusal, rfl⟩
          · refine .inl ⟨after, rfl, ?_, rfl⟩
            rw [Change.applyAll_cons, applied]
            exact folded
          · refine .inr ⟨change :: made, refused, late, working, error, rfl, rfl, ?_, refusal, rfl⟩
            rw [Change.applyAll_cons, applied]
            exact folded
      | error failure =>
          rw [applied] at tried
          cases failure with
          | fault fault => cases tried
          | refused error =>
              simp only [Except.ok.injEq, Prod.mk.injEq] at tried
              obtain ⟨rfl, rfl⟩ := tried
              exact .inr ⟨[], change, rest, document, error, rfl, rfl, rfl, applied,
                by rw [skippedChanges_eq]; rfl⟩

/-- One fix ends committed or rolled back and adds its outcome to the log. -/
theorem PatchSession.applyFix_ok {session after : PatchSession Document} {fix : Fix}
    {ruleId : String} {outcome : FixOutcome}
    (applied : session.applyFix fix ruleId = .ok (after, outcome)) :
    after.log = session.log ++ [outcome] ∧
      FixEnding session.document fix ruleId outcome after.document := by
  obtain ⟨⟨result?, entries⟩, tried, shape⟩ := bind_ok applied
  simp only [Except.ok.injEq, Prod.mk.injEq] at shape
  obtain ⟨rfl, rfl⟩ := shape
  refine ⟨rfl, ?_⟩
  rcases tryChanges_ok tried with ⟨document, rfl, folded, rfl⟩ |
    ⟨made, refused, late, working, error, rfl, split, folded, refusal, rfl⟩
  · exact .committed folded
  · exact .rolledBack split folded refusal

theorem FixEnding.entries {before after : Document} {fix : Fix} {ruleId : String}
    {outcome : FixOutcome} (ended : FixEnding before fix ruleId outcome after) :
    outcome.changes.map (·.change) = fix.changes := by
  cases ended with
  | committed folded => simp [Function.comp_def, ChangeOutcome.made]
  | rolledBack split folded refusal =>
      simp [split, Function.comp_def, ChangeOutcome.made, ChangeOutcome.skipped]

theorem FixEnding.applied_iff {before after : Document} {fix : Fix} {ruleId : String}
    {outcome : FixOutcome} (ended : FixEnding before fix ruleId outcome after) :
    outcome.applied = true ↔ ∀ entry ∈ outcome.changes, entry.applied = true := by
  cases ended with
  | committed folded => simp
  | @rolledBack made late refused working error split folded refusal =>
      refine ⟨fun impossible => (Bool.false_ne_true impossible).elim, fun allMade => ?_⟩
      have atRefused := allMade ⟨refused, some error.message⟩ (by simp)
      simp [ChangeOutcome.applied] at atRefused

theorem FixEnding.eq_of_not_applied {before after : Document} {fix : Fix} {ruleId : String}
    {outcome : FixOutcome} (ended : FixEnding before fix ruleId outcome after)
    (failed : outcome.applied = false) : after = before := by
  cases ended with
  | committed folded => cases failed
  | rolledBack split folded refusal => rfl

theorem FixEnding.applyAll_of_applied {before after : Document} {fix : Fix} {ruleId : String}
    {outcome : FixOutcome} (ended : FixEnding before fix ruleId outcome after)
    (applied : outcome.applied = true) : Change.applyAll fix.changes before = .ok after := by
  cases ended with
  | committed folded => exact folded
  | rolledBack => cases applied

/-- The document after one fix is what its changes make of it when the fix is
applied, and what none make of it otherwise. -/
theorem FixEnding.applyAll_appliedChanges {before after : Document} {fix : Fix}
    {ruleId : String} {outcome : FixOutcome}
    (ended : FixEnding before fix ruleId outcome after) :
    Change.applyAll (appliedChanges [(fix, ruleId)] [outcome]) before = .ok after := by
  cases ended with
  | committed folded => simpa [appliedChanges] using folded
  | rolledBack split folded refusal => simp [appliedChanges, Change.applyAll, pure, Except.pure]

theorem appliedChanges_cons (fix : Fix × String) (rest : List (Fix × String))
    (outcome : FixOutcome) (outcomes : List FixOutcome) :
    appliedChanges (fix :: rest) (outcome :: outcomes) =
      appliedChanges [fix] [outcome] ++ appliedChanges rest outcomes := by
  cases applied : outcome.applied <;> simp [appliedChanges, applied]

/-- A run of fixes is a first step and a run of the rest. -/
theorem PatchSession.applyFixes_cons_ok {session final : PatchSession Document}
    {entry : Fix × String} {rest : List (Fix × String)} {outcomes : List FixOutcome}
    (run : session.applyFixes (entry :: rest) = .ok (final, outcomes)) :
    ∃ after outcome later, session.applyFix entry.1 entry.2 = .ok (after, outcome) ∧
      after.applyFixes rest = .ok (final, later) ∧ outcomes = outcome :: later := by
  obtain ⟨fix, ruleId⟩ := entry
  obtain ⟨⟨after, outcome⟩, stepped, continuation⟩ := bind_ok run
  obtain ⟨⟨reached, later⟩, ran, shape⟩ := bind_ok continuation
  simp only [Except.ok.injEq, Prod.mk.injEq] at shape
  obtain ⟨rfl, rfl⟩ := shape
  exact ⟨after, outcome, later, stepped, ran, rfl⟩

theorem PatchSession.applyFixes_cons {session after final : PatchSession Document}
    {entry : Fix × String} {rest : List (Fix × String)} {outcome : FixOutcome}
    {later : List FixOutcome} (stepped : session.applyFix entry.1 entry.2 = .ok (after, outcome))
    (ran : after.applyFixes rest = .ok (final, later)) :
    session.applyFixes (entry :: rest) = .ok (final, outcome :: later) := by
  obtain ⟨fix, ruleId⟩ := entry
  simp only [PatchSession.applyFixes, stepped, bind, Except.bind, ran]

theorem PatchSession.applyFixes_document {session final : PatchSession Document}
    {fixes : List (Fix × String)} {outcomes : List FixOutcome}
    (run : session.applyFixes fixes = .ok (final, outcomes)) :
    Change.applyAll (appliedChanges fixes outcomes) session.document = .ok final.document := by
  induction fixes generalizing session outcomes with
  | nil =>
      simp only [PatchSession.applyFixes, Except.ok.injEq, Prod.mk.injEq] at run
      obtain ⟨rfl, rfl⟩ := run
      rfl
  | cons entry rest ih =>
      obtain ⟨after, outcome, later, stepped, ran, rfl⟩ := PatchSession.applyFixes_cons_ok run
      have first := (PatchSession.applyFix_ok stepped).2.applyAll_appliedChanges
      rw [appliedChanges_cons, Change.applyAll_append, first]
      exact ih ran

theorem PatchSession.applyFixes_log {session final : PatchSession Document}
    {fixes : List (Fix × String)} {outcomes : List FixOutcome}
    (run : session.applyFixes fixes = .ok (final, outcomes)) :
    final.log = session.log ++ outcomes ∧ outcomes.length = fixes.length := by
  induction fixes generalizing session outcomes with
  | nil =>
      simp only [PatchSession.applyFixes, Except.ok.injEq, Prod.mk.injEq] at run
      obtain ⟨rfl, rfl⟩ := run
      exact ⟨(List.append_nil _).symm, rfl⟩
  | cons entry rest ih =>
      obtain ⟨after, outcome, later, stepped, ran, rfl⟩ := PatchSession.applyFixes_cons_ok run
      obtain ⟨log, length⟩ := ih ran
      rw [log, (PatchSession.applyFix_ok stepped).1, List.length_cons, List.length_cons, length]
      exact ⟨List.append_assoc .., rfl⟩

/-- Each position of a run is a step from the session that the run reaches there. -/
theorem PatchSession.applyFixes_step {session final : PatchSession Document}
    {fixes : List (Fix × String)} {outcomes : List FixOutcome}
    (run : session.applyFixes fixes = .ok (final, outcomes))
    {position : Nat} {fix : Fix} {ruleId : String}
    (selected : fixes[position]? = some (fix, ruleId)) :
    ∃ before after outcome, outcomes[position]? = some outcome ∧
      FixStep session fixes outcomes position fix ruleId outcome before after := by
  induction fixes generalizing session outcomes position with
  | nil => simp at selected
  | cons entry rest ih =>
      obtain ⟨next, first, later, stepped, ran, rfl⟩ := PatchSession.applyFixes_cons_ok run
      cases position with
      | zero =>
          simp only [List.getElem?_cons_zero, Option.some.injEq] at selected
          subst selected
          obtain ⟨logged, ended⟩ := PatchSession.applyFix_ok stepped
          exact ⟨session, next, first, rfl, rfl, stepped, logged, ended, ended.entries,
            ended.applied_iff, ended.eq_of_not_applied⟩
      | succ position =>
          simp only [List.getElem?_cons_succ] at selected
          obtain ⟨before, after, outcome, found, step⟩ := ih ran selected
          refine ⟨before, after, outcome, by simpa using found, ?_, step.stepped, step.logged,
            step.ended, step.entries, step.whole, step.kept⟩
          simpa only [List.take_succ_cons] using
            PatchSession.applyFixes_cons stepped step.reached

/-- Fixes are atomic over a whole run. The document at the end is what the
changes of exactly the applied fixes make of the one at the start, in order; the
log grows by one outcome a fix; and the step at each position either commits all
changes of its fix or none of them. -/
theorem PatchSession.applyFixes_atomic {session final : PatchSession Document}
    {fixes : List (Fix × String)} {outcomes : List FixOutcome}
    (run : session.applyFixes fixes = .ok (final, outcomes)) :
    Change.applyAll (appliedChanges fixes outcomes) session.document = .ok final.document ∧
      final.log = session.log ++ outcomes ∧ outcomes.length = fixes.length ∧
      ∀ (position : Nat) (fix : Fix) (ruleId : String), fixes[position]? = some (fix, ruleId) →
        ∃ before after outcome, outcomes[position]? = some outcome ∧
          FixStep session fixes outcomes position fix ruleId outcome before after := by
  obtain ⟨log, length⟩ := applyFixes_log run
  exact ⟨applyFixes_document run, log, length, fun _ _ _ => applyFixes_step run⟩

/-- Three fixes of a document with one member. The second cannot be completed, for that member
is no list to add to. -/
def interruptedFixes : List (Fix × String) :=
  [({ kind := .addSchema, address := "$.b", changes := [⟨.set, "$.b", none, none, .int 2⟩] },
    "first"),
   ({ kind := .addSchema, address := "$.c",
      changes := [⟨.set, "$.c", none, none, .int 3⟩, ⟨.add, "$.a", none, none, .int 4⟩,
        ⟨.set, "$.d", none, none, .int 5⟩] },
    "second"),
   ({ kind := .removeRequestBody, address := "$.a",
      changes := [⟨.remove, "$.a", none, none, .null⟩] },
    "third")]

theorem PatchSession.applyFixes_atomic_interrupted :
    ∃ final outcomes,
      PatchSession.applyFixes ⟨Node.ofFields [("a", .int 1)], []⟩ interruptedFixes =
        .ok (final, outcomes) ∧
      outcomes.map (·.applied) = [true, false, true] ∧
      Change.applyAll (appliedChanges interruptedFixes outcomes) (Node.ofFields [("a", .int 1)]) =
        .ok final.document := by
  have course : (PatchSession.applyFixes ⟨Node.ofFields [("a", .int 1)], []⟩
      interruptedFixes).toOption.any
        (fun (_, outcomes) => outcomes.map (·.applied) == [true, false, true]) = true := by
    decide +kernel
  obtain ⟨⟨final, outcomes⟩, run, flags⟩ := ok_of_any course
  exact ⟨final, outcomes, run, eq_of_beq flags, (applyFixes_atomic run).1⟩

end ApiReview
