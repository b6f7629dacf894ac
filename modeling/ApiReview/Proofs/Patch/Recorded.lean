import ApiReview.Proofs.Patch.Atomicity
import ApiReview.Proofs.Patch.Faults

/-! Failures on record. A run of fixes has one outcome for each, whether it was
applied or refused, unless it comes to a change that stops with a fault; then the
run ends there without a result. -/

set_option autoImplicit false

namespace ApiReview

variable {document : Node} {changes : List Change} {fixes : List (Fix × String)}
  {session after : PatchSession Node} {fix : Fix} {ruleId : String}
  {outcomes : List FixOutcome} {fault : Fault}

/-! ## One fix -/

/-- Changes are tried up to the first that is refused or faults. -/
theorem tryChanges_fault_iff : tryChanges document changes = .error fault ↔
    ∃ made change late working, changes = made ++ change :: late ∧
      Change.applyAll made document = .ok working ∧ change.Breaks working fault := by
  constructor
  · intro failed
    induction changes generalizing document with
    | nil => cases failed
    | cons change rest ih =>
        rw [tryChanges] at failed
        cases applied : change.apply document with
        | ok changed =>
            rw [applied] at failed
            rcases bind_eq_error_iff.mp failed with failed | ⟨_, _, failed⟩
            · obtain ⟨made, last, late, working, rfl, ran, breaks⟩ := ih failed
              refine ⟨change :: made, last, late, working, rfl, ?_, breaks⟩
              rw [Change.applyAll_cons, applied]
              exact ran
            · cases failed
        | error error =>
            rw [applied] at failed
            cases error with
            | refused error => cases failed
            | fault other =>
                cases failed
                exact ⟨[], change, rest, document, rfl, rfl, Change.apply_fault_iff.mp applied⟩
  · rintro ⟨made, change, late, working, rfl, ran, breaks⟩
    have failed := Change.apply_fault_iff.mpr breaks
    induction made generalizing document with
    | nil =>
        cases ran
        rw [List.nil_append, tryChanges, failed]
    | cons first made ih =>
        rw [Change.applyAll_cons] at ran
        obtain ⟨changed, applied, ran⟩ := bind_ok ran
        rw [List.cons_append, tryChanges, applied]
        exact bind_eq_error_iff.mpr (.inl (ih ran))

theorem PatchSession.applyFix_fault_iff : session.applyFix fix ruleId = .error fault ↔
    ∃ made change late working, fix.changes = made ++ change :: late ∧
      Change.applyAll made session.document = .ok working ∧ change.Breaks working fault := by
  rw [applyFix, bind_eq_error_iff, tryChanges_fault_iff]
  simp

/-! ## Runs of fixes -/

/-- A run of fixes comes to a change that faults on what the run made of the document so far. -/
def PatchSession.BreaksOff (session : PatchSession Node) (fixes : List (Fix × String))
    (fault : Fault) : Prop :=
  ∃ done fix ruleId rest before outcomes, fixes = done ++ (fix, ruleId) :: rest ∧
    session.applyFixes done = .ok (before, outcomes) ∧
    ∃ made change late working, fix.changes = made ++ change :: late ∧
      Change.applyAll made before.document = .ok working ∧ change.Breaks working fault

/-- The outcome of a fix for a rule, with an entry for each of its changes. -/
def FixOutcome.Answers (entry : Fix × String) (outcome : FixOutcome) : Prop :=
  outcome.ruleId = entry.2 ∧ outcome.kind = entry.1.kind ∧
    outcome.changes.map (·.change) = entry.1.changes

theorem FixEnding.answers {before after : Node} {outcome : FixOutcome}
    (ended : FixEnding before fix ruleId outcome after) : outcome.Answers (fix, ruleId) := by
  have entries := ended.entries
  cases ended with
  | committed => exact ⟨rfl, rfl, entries⟩
  | rolledBack => exact ⟨rfl, rfl, entries⟩

theorem PatchSession.applyFixes_fault_iff :
    session.applyFixes fixes = .error fault ↔ session.BreaksOff fixes fault := by
  constructor
  · intro failed
    induction fixes generalizing session with
    | nil => cases failed
    | cons entry rest ih =>
        obtain ⟨fix, ruleId⟩ := entry
        rw [applyFixes, bind_eq_error_iff] at failed
        rcases failed with failed | ⟨⟨next, outcome⟩, stepped, failed⟩
        · exact ⟨[], fix, ruleId, rest, session, [], rfl, rfl, applyFix_fault_iff.mp failed⟩
        · rcases bind_eq_error_iff.mp failed with failed | ⟨_, _, failed⟩
          · obtain ⟨done, last, lastId, late, before, outcomes, rfl, ran, breaks⟩ := ih failed
            exact ⟨(fix, ruleId) :: done, last, lastId, late, before, outcome :: outcomes, rfl,
              applyFixes_cons stepped ran, breaks⟩
          · cases failed
  · rintro ⟨done, fix, ruleId, rest, before, outcomes, rfl, ran, breaks⟩
    have failed : before.applyFix fix ruleId = .error fault := applyFix_fault_iff.mpr breaks
    induction done generalizing session outcomes with
    | nil =>
        cases ran
        exact bind_eq_error_iff.mpr (.inl failed)
    | cons entry done ih =>
        obtain ⟨next, outcome, later, stepped, further, rfl⟩ := applyFixes_cons_ok ran
        refine bind_eq_error_iff.mpr (.inr ⟨(next, outcome), stepped, ?_⟩)
        exact bind_eq_error_iff.mpr (.inl (ih later further))

theorem PatchSession.answers_of_applyFixes (run : session.applyFixes fixes = .ok (after, outcomes)) :
    List.Forall₂ FixOutcome.Answers fixes outcomes := by
  induction fixes generalizing session outcomes with
  | nil =>
      cases run
      exact .nil
  | cons entry rest ih =>
      obtain ⟨next, outcome, later, stepped, ran, rfl⟩ := applyFixes_cons_ok run
      exact .cons (applyFix_ok stepped).2.answers (ih ran)

/-! ## The record -/

def setBeforeStart : Change := ⟨.set, "$.x[-2]", none, none, .int 1⟩

def overrunningFinding : Finding where
  ruleId := "first"
  severity := .error
  category := .naming
  path := "x"
  message := ""
  fix? := some { kind := .addSchema, address := "$.x[-2]", changes := [setBeforeStart] }

end ApiReview
