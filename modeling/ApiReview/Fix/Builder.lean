import ApiReview.Address.Builder
import ApiReview.Fix.Basic

/-!
The fixes that rules attach to their findings. Their changes are written so that applying a fix
twice leaves the document as after the first time.
-/

set_option autoImplicit false

namespace ApiReview.Fix

open ApiReview.Text

/-- Renames a key under the paths, matching the whole path. -/
def renamePath (path newPath : String) (target? : Option Members) (replacement : Node)
    (kind : FixKind) (more : List Change) : Fix where
  kind := kind
  address := Address.ofPath path
  target? := target?
  replacement := if replacement.isNull then .str newPath else replacement
  changes := ⟨.renameKey, "$.paths", some path, some newPath, .null⟩ :: more

def renameDefinition (name definition : String) : Change where
  kind := .set
  address := definition ++ ".name"
  value := .str name

/-- Renames a path parameter in its path and in the definitions, which are addressed under the new
path. -/
def renameParameter (path newPath oldName newName : String) (definitions : List String) : Fix :=
  renamePath path newPath (some (Members.ofFields [("parameter", .str oldName)])) (.str newName)
    .renameParameter (definitions.map (renameDefinition newName))

def removeRequestBody (path method : String) : Fix where
  kind := .removeRequestBody
  address := Address.ofRequestBody path method
  target? := some (Members.ofFields [("method", .str (upper method))])
  changes := [{ kind := .remove, address := Address.ofRequestBody path method }]

def changeStatusCode (path method current suggested : String) : Fix where
  kind := .changeStatusCode
  address := Address.ofResponse path method current
  target? :=
    some (Members.ofFields [("currentCode", .str current), ("suggestedCode", .str suggested)])
  replacement := .str suggested
  changes :=
    [⟨.renameKey, Address.ofResponses path method, some current, some suggested, .null⟩]

def parameterNames (parameters : List Node) : Except Fault (List Node) :=
  parameters.mapM fun parameter =>
    match parameter with
    | .object members =>
      match Members.get? members "name" with
      | some name => .ok name
      | none => .error .missingMember
    | _ => .error .wrongKind

/-- Merges parameter objects, of which there is at least one, into the list of an operation. -/
def addParameters (path method : String) (parameters : List Node) : Except Fault Fix := do
  let names ← parameterNames parameters
  let address := Address.ofParameters path (some method)
  let changes : List Change := [{ kind := .merge, address, value := .list parameters }]
  let target? := some (Members.ofFields [("names", .list names)])
  match parameters with
  | [] => .error .outOfRange
  | [parameter] => .ok ⟨.addParameter, address, target?, parameter, changes⟩
  | _ => .ok ⟨.addParameters, address, target?, .list parameters, changes⟩

def setSchemaConstraint (schema constraint : String) (value : Node) (target : Members) : Fix where
  kind := .setSchemaConstraint
  address := schema
  target? := some (target.foldl (fun members (key, value) => Members.put key value members)
    (Members.ofFields [("constraint", .str constraint)]))
  replacement := value
  changes := [{ kind := .set, address := schema ++ "." ++ constraint, value }]

def addSchema (name : String) (schema : Node) : Fix where
  kind := .addSchema
  address := Address.ofSchema name
  target? := some (Members.ofFields [("schema", .str name)])
  replacement := schema
  changes := [{ kind := .set, address := Address.ofSchema name, value := schema }]

def addSchemaProperty (schema name : String) (property : Node) : Fix where
  kind := .addSchemaProperty
  address := schema
  target? := some (Members.ofFields [("property", .str name)])
  replacement := property
  changes := [{ kind := .set, address := Address.ofProperty schema name, value := property }]

def addResponse (path method code : String) (response : Node) : Fix where
  kind := .addResponse
  address := Address.ofResponses path method
  target? := some (Members.ofFields [("code", .str code)])
  replacement := response
  changes := [{ kind := .set, address := Address.ofResponse path method code, value := response }]

/-- Adds an operation to a path, perhaps modelled on that of another method. -/
def addOperation (path method : String) (operation : Node) (basedOn? : Option String) : Fix where
  kind := .addOperation
  address := Address.ofPath path
  target? :=
    let model :=
      match basedOn? with
      | some basedOn => if basedOn.isEmpty then [] else [("basedOn", Node.str (lower basedOn))]
      | none => []
    some (Members.ofFields (("method", .str (lower method)) :: model))
  replacement := operation
  changes := [{ kind := .set, address := Address.ofOperation path method, value := operation }]

end ApiReview.Fix
