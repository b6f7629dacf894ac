import ApiReview.Spec.Reference

/-!
The operations of a document and the parameters that each of them sees. Parameters of a path are
overridden by those of the operation with the same name and location. Optional structures count as
empty when they are absent.
-/

set_option autoImplicit false

namespace ApiReview

open ApiReview.Text

/-- The method keys of a path item that are operations, in lower case. -/
def httpMethods : List String := ["get", "post", "put", "patch", "delete", "options", "head"]

/-- A parameter as one operation sees it, with references followed. -/
structure Parameter where
  name : String
  /-- Where it is sent: in practice the text `query`, `header`, `path` or `cookie`. -/
  location : Node
  definition : Members
  /-- The address of the definition. -/
  address : String
  reference? : Option String

/-- The schema of a parameter, if it is an object. -/
def Parameter.schema? (parameter : Parameter) : Option Members :=
  (Members.get? parameter.definition "schema").bind Node.members?

/-- One method on one path. -/
structure Operation where
  path : String
  /-- The method in upper case. -/
  method : String
  definition : Members
  pathItem : Members
  parameters : List Parameter

namespace Operation

/-- The operation in a few words: its method and path. -/
def location (operation : Operation) : String := operation.method ++ " " ++ operation.path

def address (operation : Operation) : String :=
  Address.ofOperation operation.path operation.method

/-- The first parameter with one of the names, in a location if one is given. -/
def findParameter? (operation : Operation) (names : List String) (location? : Option Node) :
    Option Parameter :=
  operation.parameters.find? fun parameter =>
    names.contains parameter.name
      && (match location? with
        | some location => parameter.location.same location
        | none => true)

def hasQueryParameter (operation : Operation) (names : List String) : Bool :=
  (operation.findParameter? names (some (.str "query"))).isSome

/-- The status codes that the operation responds with, as texts. -/
def responseCodes (operation : Operation) : Except Fault (List String) := do
  let codes ← (Node.optional (Members.get? operation.definition "responses")).elements
  .ok (codes.map Node.display)

end Operation

/-- The location of a parameter as an address names it; an empty one is left out. -/
def locationText? (location : Node) : Option String :=
  if location.isFilled then some location.display else none

/-- The parameter that an item of a parameter list declares, if it has a name in the end. -/
def parameter? (spec : Node) (path : String) (method? : Option String) (item : Node) :
    Except Fault (Option Parameter) :=
  match item with
  | .object members => do
    let definition? := (← resolve? spec referenceLimit item).bind Node.members?
    match definition? with
    | none => .ok none
    | some definition =>
      match Members.get? definition "name" with
      | none => .ok none
      | some name =>
        let name := name.display
        let location := (Members.get? definition "in").getD (.str "query")
        let inline := Address.ofParameter path method? name (locationText? location)
        let reference? := (Members.get? members "$ref").bind Node.text?
        -- A fix edits what a reference leads to; a reference without an address is edited itself.
        let address := (reference?.bind fun reference =>
          (Address.ofReference reference).toOption).getD inline
        .ok (some ⟨name, location, definition, address, reference?⟩)
  | _ => .ok none

/-- Whether two parameters are the same one for an operation: name and location agree. -/
def Parameter.sameSlot (left right : Parameter) : Bool :=
  left.name == right.name && left.location.same right.location

/-- Puts a parameter in the place of the one with its name and location, or at the end. -/
def putParameter (parameters : List Parameter) (parameter : Parameter) : List Parameter :=
  if parameters.any (·.sameSlot parameter) then
    parameters.map fun present => if present.sameSlot parameter then parameter else present
  else parameters ++ [parameter]

/-- Adds the declarations of one parameter list. A location has to be a scalar. -/
def addParameters (spec : Node) (path : String) (method? : Option String)
    (parameters : List Parameter) (items : List Node) : Except Fault (List Parameter) :=
  items.foldlM (fun parameters item => do
    match ← parameter? spec path method? item with
    | none => .ok parameters
    | some parameter =>
      match parameter.location with
      | .list _ | .object _ => .error .wrongKind
      | _ => .ok (putParameter parameters parameter)) parameters

def parameterItems (owner : Members) : Except Fault (List Node) :=
  match Members.get? owner "parameters" with
  | some items => if items.isFilled then items.elements else .ok []
  | none => .ok []

def parametersOf (spec : Node) (path : String) (pathItem : Members) (method : String)
    (operation : Members) : Except Fault (List Parameter) := do
  -- The path comes first: its parameters keep their places when the operation overrides them.
  let shared ← addParameters spec path none [] (← parameterItems pathItem)
  addParameters spec path (some method) shared (← parameterItems operation)

/-- The paths of a document, if they are an object. -/
def pathItems (spec : Members) : Members :=
  ((Members.get? spec "paths").bind Node.members?).getD []

/-- The shared schemas of a document, if they are an object. -/
def sharedSchemas (spec : Members) : Members :=
  ((Node.optional (Members.get? spec "components")).get? "schemas" |>.bind Node.members?).getD []

/-- The operations of one path item, in order. Keys of a path item have to be texts. -/
def operationsOfItem (spec : Node) (path : String) (pathItem : Members) :
    Except Fault (List Operation) := do
  let operations ← pathItem.mapM fun (key, value) =>
    match key with
    | .str method =>
      match value with
      | .object definition =>
        if httpMethods.contains (lower method) then do
          let parameters ← parametersOf spec path pathItem (lower method) definition
          .ok (some ⟨path, upper method, definition, pathItem, parameters⟩)
        else .ok none
      | _ => .ok none
    | _ => .error .notAnObject
  .ok (operations.filterMap id)

/-- All operations of a document, in order. -/
def operationsOf (spec : Node) : Except Fault (List Operation) := do
  let members ← spec.asObject
  let operations ← (pathItems members).mapM fun (key, value) =>
    match value with
    | .object pathItem => operationsOfItem spec key.display pathItem
    | _ => .ok []
  .ok operations.flatten

end ApiReview
