import ApiReview.Finding
import ApiReview.Patch.Change

/-!
Applying fixes to a document. A fix is all or nothing: its changes are made on a working copy,
which becomes the document only when every one of them was made. Each fix leaves one outcome in
the log.
-/

set_option autoImplicit false

namespace ApiReview

/-- What became of a change: nothing went wrong, or the reason why it was not made. -/
structure ChangeOutcome where
  change : Change
  error? : Option String

def ChangeOutcome.applied (outcome : ChangeOutcome) : Bool := outcome.error?.isNone

/-- What became of a fix. -/
structure FixOutcome where
  ruleId : String
  kind : FixKind
  applied : Bool
  changes : List ChangeOutcome

/-- The first reason why a change of the fix was not made. -/
def FixOutcome.error? (outcome : FixOutcome) : Option String :=
  outcome.changes.findSome? (·.error?)

/-- The reason given for changes behind one that failed. -/
def skippedMessage : String := "skipped after an earlier failure"

/-- The outcomes of changes that come too late. -/
def skippedChanges (changes : List Change) : List ChangeOutcome :=
  changes.map fun change => ⟨change, some skippedMessage⟩

/-- Makes changes one after the other up to the first that is refused. The document is missing
when one was. -/
def tryChanges {Document : Type} [Editable Document] (document : Document) :
    List Change → Except Fault (Option Document × List ChangeOutcome)
  | [] => .ok (some document, [])
  | change :: rest =>
    match change.apply document with
    | .ok changed => do
      let (result?, outcomes) ← tryChanges changed rest
      .ok (result?, ⟨change, none⟩ :: outcomes)
    | .error (.refused error) =>
      .ok (none, ⟨change, some error.message⟩ :: skippedChanges rest)
    | .error (.fault fault) => .error fault

/-- A document under repair and the outcomes of the fixes so far. -/
structure PatchSession (Document : Type) where
  document : Document
  log : List FixOutcome := []

/-- Counts of the outcomes. -/
structure PatchSummary where
  total : Nat
  applied : Nat
  failed : Nat
  changes : Nat
  deriving DecidableEq, Repr

namespace PatchSession

variable {Document : Type}

def applyFix [Editable Document] (session : PatchSession Document) (fix : Fix) (ruleId : String) :
    Except Fault (PatchSession Document × FixOutcome) := do
  let (result?, changes) ← tryChanges session.document fix.changes
  let outcome : FixOutcome := ⟨ruleId, fix.kind, result?.isSome, changes⟩
  .ok (⟨result?.getD session.document, session.log ++ [outcome]⟩, outcome)

/-- Applies fixes in order, each for the rule with the given id. -/
def applyFixes [Editable Document] (session : PatchSession Document) :
    List (Fix × String) → Except Fault (PatchSession Document × List FixOutcome)
  | [] => .ok (session, [])
  | (fix, ruleId) :: rest => do
    let (session, outcome) ← session.applyFix fix ruleId
    let (session, outcomes) ← session.applyFixes rest
    .ok (session, outcome :: outcomes)

def fixesOf (findings : List Finding) : List (Fix × String) :=
  findings.filterMap fun finding => finding.fix?.map fun fix => (fix, finding.ruleId)

/-- Applies the fix of every finding that carries one, in order. -/
def applyFindings [Editable Document] (session : PatchSession Document) (findings : List Finding) :
    Except Fault (PatchSession Document × List FixOutcome) :=
  session.applyFixes (fixesOf findings)

/-- The outcomes of fixes that were not applied. -/
def errors (session : PatchSession Document) : List FixOutcome :=
  session.log.filter fun outcome => !outcome.applied

/-- Whether a fix was not applied. -/
def hasErrors (session : PatchSession Document) : Bool :=
  session.log.any fun outcome => !outcome.applied

def summary (session : PatchSession Document) : PatchSummary :=
  let applied := session.log.countP fun outcome => outcome.applied
  { total := session.log.length
    applied
    failed := session.log.length - applied
    changes := (session.log.flatMap (·.changes)).countP fun outcome => outcome.applied }

end PatchSession

end ApiReview
