import ApiReview.Patch.Session
import ApiReview.Review

/-!
Repairing a document: rounds of a review and of applying the fixes of its findings. A later round
takes up fixes that an earlier one made stale by renaming what they address.
-/

set_option autoImplicit false

namespace ApiReview

namespace Reviewer

variable {Document : Type} [Editable Document]

/-- One round: the session with the fixes of a review of its document applied, and what became of
them. -/
def repairOnce (reviewer : Reviewer) (specPath? : Option String)
    (session : PatchSession Document) :
    Except ReviewFailure (PatchSession Document × List FixOutcome) := do
  let result ← reviewer.review (Editable.toNode session.document) specPath?
  (session.applyFindings result.findings).mapError .fault

/-- Whether no round follows one: none is wanted, the document is as before, or no fix was applied.
A round behind the first in which no fix was applied has left the document alone, so there is
nothing to compare. -/
def isLastRound (once isFirst : Bool) (before after : PatchSession Document)
    (outcomes : List FixOutcome) : Except Fault Bool := do
  let isIdle := !outcomes.any (·.applied)
  if once || isIdle && !isFirst then .ok true
  else if ← Editable.same after.document before.document then .ok true
  else .ok isIdle

/-- Rounds up to a limit, or a single one. Gives the outcomes of each round that was made, and the
session at the end or why there is none. -/
def rounds (reviewer : Reviewer) (specPath? : Option String) (once : Bool) :
    Nat → Bool → PatchSession Document →
      List (List FixOutcome) × Except ReviewFailure (PatchSession Document)
  | 0, _, session => ([], .ok session)
  | limit + 1, isFirst, session =>
    match reviewer.repairOnce specPath? session with
    | .error failure => ([], .error failure)
    | .ok (after, outcomes) =>
      match isLastRound once isFirst session after outcomes with
      | .error fault => ([outcomes], .error (.fault fault))
      | .ok true => ([outcomes], .ok after)
      | .ok false =>
        let (more, result) := reviewer.rounds specPath? once limit false after
        (outcomes :: more, result)

/-- Repairs a document in rounds up to a limit, or in a single one. -/
def repair (reviewer : Reviewer) (specPath? : Option String) (once : Bool) (limit : Nat)
    (session : PatchSession Document) :
    List (List FixOutcome) × Except ReviewFailure (PatchSession Document) :=
  reviewer.rounds specPath? once limit true session

end Reviewer

end ApiReview
