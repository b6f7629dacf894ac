import ApiReview.Node.Basic

/-!
Fixes: machine-applicable corrections of a document. A fix is a list of primitive changes, each
of which addresses the part of the document that it edits.
-/

set_option autoImplicit false

namespace ApiReview

/-- A primitive way to edit a document. -/
inductive ChangeKind
  | renameKey
  | set
  | add
  | remove
  | merge
  deriving DecidableEq, Repr

namespace ChangeKind

def all : List ChangeKind := [.renameKey, .set, .add, .remove, .merge]

def name : ChangeKind → String
  | .renameKey => "rename-key"
  | .set => "set"
  | .add => "add"
  | .remove => "remove"
  | .merge => "merge"

def ofName? (name : String) : Option ChangeKind := all.find? fun kind => kind.name == name

end ChangeKind

/-- A primitive edit of the part of a document at an address. A null value counts as none. -/
structure Change where
  kind : ChangeKind
  address : String
  from? : Option String := none
  to? : Option String := none
  value : Node := .null

/-- What a fix does. -/
inductive FixKind
  | renamePathSegment
  | renameParameter
  | addParameter
  | addParameters
  | removeRequestBody
  | changeStatusCode
  | addOperation
  | addSchema
  | addSchemaProperty
  | addResponse
  | setSchemaConstraint
  deriving DecidableEq, Repr

namespace FixKind

def all : List FixKind :=
  [.renamePathSegment, .renameParameter, .addParameter, .addParameters, .removeRequestBody,
   .changeStatusCode, .addOperation, .addSchema, .addSchemaProperty, .addResponse,
   .setSchemaConstraint]

def name : FixKind → String
  | .renamePathSegment => "rename-path-segment"
  | .renameParameter => "rename-parameter"
  | .addParameter => "add-parameter"
  | .addParameters => "add-parameters"
  | .removeRequestBody => "remove-request-body"
  | .changeStatusCode => "change-status-code"
  | .addOperation => "add-operation"
  | .addSchema => "add-schema"
  | .addSchemaProperty => "add-schema-property"
  | .addResponse => "add-response"
  | .setSchemaConstraint => "set-schema-constraint"

def ofName? (name : String) : Option FixKind := all.find? fun kind => kind.name == name

end FixKind

/-- A correction for a finding. -/
structure Fix where
  kind : FixKind
  address : String
  target? : Option Members := none
  /-- What the target becomes; null when nothing takes its place. -/
  replacement : Node := .null
  changes : List Change := []

/-- The members that are present, in order. -/
def presentFields (fields : List (String × Option Node)) : Node :=
  Node.ofFields (fields.filterMap fun (name, value?) => value?.map fun value => (name, value))

/-- A value that may be absent. -/
def Node.present? (node : Node) : Option Node := if node.isNull then none else some node

def Change.toNode (change : Change) : Node :=
  presentFields
    [("operation", some (.str change.kind.name)), ("path", some (.str change.address)),
     ("from", change.from?.map .str), ("to", change.to?.map .str),
     ("value", change.value.present?)]

def Fix.toNode (fix : Fix) : Node :=
  presentFields
    [("type", some (.str fix.kind.name)), ("jsonPath", some (.str fix.address)),
     ("target", fix.target?.map .object), ("replacement", fix.replacement.present?),
     ("specChanges", some (.list (fix.changes.map Change.toNode)))]

end ApiReview
