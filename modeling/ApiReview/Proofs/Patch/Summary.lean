import ApiReview.Proofs.Patch.Atomicity

/-! What the counts of a session say about its run. Fixes are counted by how they
ended, and changes by whether they were made. A change that was made for a fix that
was rolled back later is counted, too, although nothing of it is in the document. -/

set_option autoImplicit false

namespace ApiReview

variable {Document : Type} [Editable Document]

/-- The changes that were made for fixes that were then rolled back, in order. -/
def lostChanges (outcomes : List FixOutcome) : List Change :=
  (outcomes.filter fun outcome => !outcome.applied).flatMap fun outcome =>
    (outcome.changes.filter fun entry => entry.applied).map fun entry => entry.change

private theorem lostChanges_cons (outcome : FixOutcome) (outcomes : List FixOutcome) :
    lostChanges (outcome :: outcomes) = lostChanges [outcome] ++ lostChanges outcomes := by
  cases applied : outcome.applied <;> simp [lostChanges, applied]

theorem lostChanges_eq_nil_iff {outcomes : List FixOutcome} :
    lostChanges outcomes = [] ↔ ∀ outcome ∈ outcomes, outcome.applied = false →
      ∀ entry ∈ outcome.changes, entry.applied = false := by
  simp [lostChanges]

/-- The entries of made changes that one fix leaves are its own changes when it is committed, and
else those that are lost with it. -/
theorem FixEnding.count_made {before after : Document} {fix : Fix} {ruleId : String}
    {outcome : FixOutcome} (ended : FixEnding before fix ruleId outcome after) :
    (outcome.changes.countP fun entry => entry.applied) =
      (appliedChanges [(fix, ruleId)] [outcome]).length + (lostChanges [outcome]).length := by
  cases ended with
  | committed folded => simp [appliedChanges, lostChanges, List.countP_map, Function.comp_def]
  | rolledBack split folded refusal => simp [appliedChanges, lostChanges, List.countP_eq_length_filter]

theorem PatchSession.applyFixes_count_made {session final : PatchSession Document}
    {fixes : List (Fix × String)} {outcomes : List FixOutcome}
    (run : session.applyFixes fixes = .ok (final, outcomes)) :
    ((outcomes.flatMap fun outcome => outcome.changes).countP fun entry => entry.applied) =
      (appliedChanges fixes outcomes).length + (lostChanges outcomes).length := by
  induction fixes generalizing session outcomes with
  | nil =>
      cases run
      rfl
  | cons entry rest ih =>
      obtain ⟨after, outcome, later, stepped, ran, rfl⟩ := PatchSession.applyFixes_cons_ok run
      have first : (outcome.changes.countP fun entry => entry.applied) =
          (appliedChanges [entry] [outcome]).length + (lostChanges [outcome]).length :=
        (PatchSession.applyFix_ok stepped).2.count_made
      have behind := ih ran
      rw [List.flatMap_cons, List.countP_append, first, behind,
        appliedChanges_cons entry rest outcome later, lostChanges_cons outcome later,
        List.length_append, List.length_append]
      omega

/-- Every fix of a run is counted once, as applied or as failed, and the errors are the outcomes
of those that failed, in order. The changes that are counted are those of the applied fixes
together with those that were lost, so that the count tells what was committed just when no fix
failed behind a change that was made. -/
theorem PatchSession.summary_counts_iff {document : Document} {final : PatchSession Document}
    {fixes : List (Fix × String)} {outcomes : List FixOutcome}
    (run : PatchSession.applyFixes ⟨document, []⟩ fixes = .ok (final, outcomes)) :
    final.summary.total = fixes.length ∧
      final.summary.applied = (outcomes.countP fun outcome => outcome.applied) ∧
      final.summary.applied + final.summary.failed = final.summary.total ∧
      (final.hasErrors = true ↔ 0 < final.summary.failed) ∧
      (final.hasErrors = true ↔ final.errors ≠ []) ∧
      final.errors = outcomes.filter (fun outcome => !outcome.applied) ∧
      final.summary.changes =
        (appliedChanges fixes outcomes).length + (lostChanges outcomes).length ∧
      (final.summary.changes = (appliedChanges fixes outcomes).length ↔
        ∀ outcome ∈ outcomes, outcome.applied = false →
          ∀ entry ∈ outcome.changes, entry.applied = false) := by
  obtain ⟨log, length⟩ := applyFixes_log run
  rw [List.nil_append] at log
  have errors : final.errors = outcomes.filter (fun outcome => !outcome.applied) := by
    rw [PatchSession.errors, log]
  have failed : final.summary.applied + final.errors.length = outcomes.length := by
    have parts : outcomes.length = _ + _ :=
      List.length_eq_countP_add_countP fun outcome : FixOutcome => outcome.applied
    rw [summary, log, errors, parts, ← List.countP_eq_length_filter]
    simp
  have rest : final.summary.failed = final.summary.total - final.summary.applied := rfl
  have total : final.summary.total = outcomes.length := by rw [summary, log]
  have hasErrors : final.hasErrors = true ↔ final.errors ≠ [] := by
    rw [PatchSession.hasErrors, log, errors]
    simp
  have some_error : final.errors ≠ [] ↔ 0 < final.errors.length := List.length_pos_iff.symm
  have made : final.summary.changes =
      (appliedChanges fixes outcomes).length + (lostChanges outcomes).length := by
    rw [← applyFixes_count_made run, summary, log]
  refine ⟨total.trans length, ?_, ?_, ?_, hasErrors, errors, made, ?_⟩
  · rw [summary, log]
  · omega
  · rw [hasErrors, some_error]
    omega
  · rw [made, ← lostChanges_eq_nil_iff, Nat.add_eq_left, List.length_eq_zero_iff]

theorem PatchSession.summary_counts_iff_interrupted :
    ∃ final outcomes,
      PatchSession.applyFixes ⟨Node.ofFields [("a", .int 1)], []⟩ interruptedFixes =
        .ok (final, outcomes) ∧
      final.summary = ⟨3, 2, 1, 3⟩ ∧
      (appliedChanges interruptedFixes outcomes).length = 2 ∧
      ¬ ∀ outcome ∈ outcomes, outcome.applied = false →
        ∀ entry ∈ outcome.changes, entry.applied = false := by
  have course : (PatchSession.applyFixes ⟨Node.ofFields [("a", .int 1)], []⟩
      interruptedFixes).toOption.any (fun (final, outcomes) => final.summary == ⟨3, 2, 1, 3⟩ &&
        (appliedChanges interruptedFixes outcomes).length == 2) = true := by
    decide +kernel
  obtain ⟨⟨final, outcomes⟩, run, counts⟩ := ok_of_any course
  rw [Bool.and_eq_true, beq_iff_eq, beq_iff_eq] at counts
  obtain ⟨_, _, _, _, _, _, _, kept_iff⟩ := summary_counts_iff run
  refine ⟨final, outcomes, run, counts.1, counts.2, fun none_lost => ?_⟩
  have same := kept_iff.mpr none_lost
  rw [counts.1, counts.2] at same
  cases same

end ApiReview
