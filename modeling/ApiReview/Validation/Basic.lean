import ApiReview.Node.Display

/-!
Checking documents against records. A check goes on behind a problem, so that its result tells
either the record or every problem with it, each by its place and its flaw, in the order of the
fields.
-/

set_option autoImplicit false

namespace ApiReview

/-- A step towards the place of a problem. -/
inductive PlaceStep
  | field (name : String)
  | item (index : Nat)
  deriving DecidableEq, Repr

/-- What is wrong at a place. -/
inductive Flaw
  | missing
  | noText
  | notListed
  | noSuchLiteral
  | noFlag
  | flagUnreadable
  | noWhole
  | wholeUnreadable
  | wholeTooLong
  | wholeHasFraction
  | notFinite
  | noNumber
  | numberUnreadable
  | tooSmall
  | tooLarge
  | noList
  | noSet
  | noMapping
  | noRecord
  | unknownField
  | unchangeable
  deriving DecidableEq, Repr

def Flaw.name : Flaw → String
  | .missing => "missing"
  | .noText => "string_type"
  | .notListed => "enum"
  | .noSuchLiteral => "literal_error"
  | .noFlag => "bool_type"
  | .flagUnreadable => "bool_parsing"
  | .noWhole => "int_type"
  | .wholeUnreadable => "int_parsing"
  | .wholeTooLong => "int_parsing_size"
  | .wholeHasFraction => "int_from_float"
  | .notFinite => "finite_number"
  | .noNumber => "float_type"
  | .numberUnreadable => "float_parsing"
  | .tooSmall => "greater_than_equal"
  | .tooLarge => "less_than_equal"
  | .noList => "list_type"
  | .noSet => "frozen_set_type"
  | .noMapping => "dict_type"
  | .noRecord => "model_type"
  | .unknownField => "extra_forbidden"
  | .unchangeable => "frozen_instance"

/-- A flaw and its place. -/
structure Problem where
  place : List PlaceStep
  flaw : Flaw
  deriving DecidableEq, Repr

def Problem.within (step : PlaceStep) (problem : Problem) : Problem :=
  ⟨step :: problem.place, problem.flaw⟩

/-- The result of a check: what was checked, or all problems with it. -/
inductive Checked (Result : Type)
  | valid (result : Result)
  | invalid (problems : List Problem)

namespace Checked

/-- Applies a result to another; the problems of both come together. -/
def apply {Source Target : Type} (function : Checked (Source → Target))
    (argument : Checked Source) : Checked Target :=
  match function, argument with
  | .valid function, .valid argument => .valid (function argument)
  | .valid _, .invalid problems => .invalid problems
  | .invalid problems, .valid _ => .invalid problems
  | .invalid problems, .invalid more => .invalid (problems ++ more)

instance : Applicative Checked where
  pure := .valid
  seq function argument := function.apply (argument ())

def problems {Result : Type} : Checked Result → List Problem
  | .valid _ => []
  | .invalid problems => problems

/-- The problems of a check, seen from one step further out. -/
def within {Result : Type} (step : PlaceStep) : Checked Result → Checked Result
  | .valid result => .valid result
  | .invalid problems => .invalid (problems.map (Problem.within step))

/-- A check that finds one flaw, right here. -/
def flawed {Result : Type} (flaw : Flaw) : Checked Result := .invalid [⟨[], flaw⟩]

/-- The result of a search, in which nothing found is a flaw. -/
def ofOption {Result : Type} (flaw : Flaw) : Option Result → Checked Result
  | some result => .valid result
  | none => flawed flaw

/-- The result, or the problems. -/
def toExcept {Result : Type} : Checked Result → Except (List Problem) Result
  | .valid result => .ok result
  | .invalid problems => .error problems

end Checked

abbrev Checker (Result : Type) := Node → Checked Result

namespace Checker

def anything : Checker Node := .valid

def text : Checker String
  | .str content => .valid content
  | _ => .flawed .noText

def named {Result : Type} (flaw : Flaw) (ofName? : String → Option Result) : Checker Result :=
  fun node => .ofOption flaw (node.text?.bind ofName?)

/-- Takes null as well as what another check takes. -/
def optional {Result : Type} (check : Checker Result) : Checker (Option Result)
  | .null => .valid none
  | node => some <$> check node

def itemsFrom {Result : Type} (check : Checker Result) : Nat → List Node → Checked (List Result)
  | _, [] => .valid []
  | index, item :: rest =>
    List.cons <$> (check item).within (.item index) <*> itemsFrom check (index + 1) rest

def list {Result : Type} (check : Checker Result) : Checker (List Result)
  | .list items => itemsFrom check 0 items
  | _ => .flawed .noList

/-- Takes lists as sets, in which an item counts once. -/
def set {Result : Type} [BEq Result] (check : Checker Result) : Checker (List Result)
  | .list items => List.eraseDups <$> itemsFrom check 0 items
  | _ => .flawed .noSet

def mapping : Checker Members
  | .object members => .valid members
  | _ => .flawed .noMapping

def values {Result : Type} (check : Checker Result) : Members → Checked (List (String × Result))
  | [] => .valid []
  | (key, value) :: rest =>
    (fun result entries => (key.display, result) :: entries) <$>
      (check value).within (.field key.display) <*> values check rest

def mappingOf {Result : Type} (check : Checker Result) : Checker (List (String × Result))
  | .object members => values check members
  | _ => .flawed .noMapping

def record {Result : Type} (fields : Members → Checked Result) : Checker Result
  | .object members => fields members
  | _ => .flawed .noRecord

end Checker

/-- Checks a field of a record, which may go by several names: the first that the record has is
looked at. An absent field has its usual value or is missing under the first of the names. -/
def Members.field {Result : Type} (members : Members) (names : List String)
    (check : Checker Result) (usual? : Option Result) : Checked Result :=
  let found? := names.findSome? fun name =>
    (Members.get? members name).map fun value => (check value).within (.field name)
  match found?, usual? with
  | some checked, _ => checked
  | none, some usual => .valid usual
  | none, none => .invalid [⟨[.field (names.headD "")], .missing⟩]

/-- Refuses members whose names are not among those of the fields. -/
def Members.onlyFields (members : Members) (names : List String) : Checked Unit :=
  let unknown := members.filterMap fun (key, _) =>
    if names.contains key.display then none
    else some ⟨[.field key.display], .unknownField⟩
  if unknown.isEmpty then .valid () else .invalid unknown

end ApiReview
