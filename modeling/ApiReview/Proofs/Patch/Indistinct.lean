import ApiReview.Proofs.Patch.Atomicity
import ApiReview.Proofs.Patch.Renumbering

/-! Fixes on documents that edits do not tell apart. Whatever is proposed has the same
outcomes on both and leads to documents that edits do not tell apart either. -/

set_option autoImplicit false

namespace ApiReview

/-- Related documents cannot be told apart: they show the same, and every edit fails alike on both
or leads to related documents. -/
structure Indistinct {Document : Type} [Editable Document] (alike : Document → Document → Prop) :
    Prop where
  shows : ∀ {first second}, alike first second → Editable.toNode first = Editable.toNode second
  edits : ∀ {first second}, alike first second → ∀ edit : Edit,
    Agree alike (Editable.edit edit first) (Editable.edit edit second)

theorem indistinct_eq {Document : Type} [Editable Document] :
    Indistinct (@Eq Document) where
  shows same := congrArg _ same
  edits := by
    rintro first _ rfl edit
    exact .refl (fun _ => rfl) _

theorem indistinct_renumbered : Indistinct Graph.Renumbered where
  shows := fun ⟨_, same⟩ => same.toNode
  edits same edit := same.apply edit

namespace Indistinct

variable {Document : Type} [Editable Document] {alike : Document → Document → Prop}
  {first second : Document} {session other : PatchSession Document}

theorem change (indistinct : Indistinct alike) (same : alike first second) (change : Change) :
    Agree alike (change.apply first) (change.apply second) := by
  rw [Change.apply, Change.apply, indistinct.shows same]
  refine Agree.bind_same fun edits => ?_
  rw [Change.carryOut, Change.carryOut]
  refine Agree.mapError ?_
  induction edits generalizing first second with
  | nil => exact .ok same
  | cons edit rest ih =>
      rw [List.foldlM_cons, List.foldlM_cons]
      exact (indistinct.edits same edit).bind fun _ _ reached => ih reached

theorem tryChanges (indistinct : Indistinct alike) (same : alike first second)
    (changes : List Change) :
    Agree (fun result twin => Option.Rel alike result.1 twin.1 ∧ result.2 = twin.2)
      (tryChanges first changes) (tryChanges second changes) := by
  induction changes generalizing first second with
  | nil => exact .ok ⟨.some same, rfl⟩
  | cons change rest ih =>
      have made := indistinct.change same change
      rw [ApiReview.tryChanges, ApiReview.tryChanges]
      generalize change.apply first = changed at made ⊢
      generalize change.apply second = twin at made ⊢
      cases made with
      | ok reached =>
          refine (ih reached).bind fun result twin here => ?_
          exact .ok ⟨here.1, by rw [here.2]⟩
      | failed cause =>
          cases cause with
          | refused error => exact .ok ⟨.none, rfl⟩
          | fault fault => exact .failed fault

theorem applyFix (indistinct : Indistinct alike) (same : alike session.document other.document)
    (fix : Fix) (ruleId : String) :
    Agree (fun result twin => alike result.1.document twin.1.document ∧ result.2 = twin.2)
      (session.applyFix fix ruleId) (other.applyFix fix ruleId) := by
  refine (indistinct.tryChanges same fix.changes).bind fun result twin here => ?_
  obtain ⟨result?, entries⟩ := result
  obtain ⟨twin?, _⟩ := twin
  obtain ⟨documents, rfl⟩ := here
  cases documents with
  | none => exact .ok ⟨same, rfl⟩
  | some reached => exact .ok ⟨reached, rfl⟩

theorem applyFixes (indistinct : Indistinct alike) (same : alike session.document other.document)
    (fixes : List (Fix × String)) :
    Agree (fun result twin => alike result.1.document twin.1.document ∧ result.2 = twin.2)
      (session.applyFixes fixes) (other.applyFixes fixes) := by
  induction fixes generalizing session other with
  | nil => exact .ok ⟨same, rfl⟩
  | cons entry rest ih =>
      obtain ⟨fix, ruleId⟩ := entry
      refine (indistinct.applyFix same fix ruleId).bind fun after twin here => ?_
      refine (ih here.1).bind fun final finalTwin later => ?_
      exact .ok ⟨later.1, by rw [here.2, later.2]⟩

end Indistinct

/-! ## Sizes of graphs -/

theorem Change.size_le_apply {change : Change} {graph after : Graph}
    (applied : change.apply graph = .ok after) : graph.cells.size ≤ after.cells.size := by
  obtain ⟨edits, planned, carried⟩ := bind_ok applied
  have folded := mapError_ok carried
  clear applied planned carried
  induction edits generalizing graph with
  | nil =>
      cases folded
      exact Nat.le_refl _
  | cons edit rest ih =>
      rw [List.foldlM_cons] at folded
      obtain ⟨reached, edited, folded⟩ := bind_ok folded
      exact (Graph.size_le_apply edited).trans (ih folded)

theorem PatchSession.size_le_applyFixes {session final : PatchSession Graph}
    {fixes : List (Fix × String)} {outcomes : List FixOutcome}
    (run : session.applyFixes fixes = .ok (final, outcomes)) :
    session.document.cells.size ≤ final.document.cells.size := by
  have folded := PatchSession.applyFixes_document run
  generalize appliedChanges fixes outcomes = changes at folded
  generalize session.document = graph at folded ⊢
  induction changes generalizing graph with
  | nil =>
      cases folded
      exact Nat.le_refl _
  | cons change rest ih =>
      rw [Change.applyAll_cons] at folded
      obtain ⟨reached, applied, folded⟩ := bind_ok folded
      exact (Change.size_le_apply applied).trans (ih reached folded)

end ApiReview
