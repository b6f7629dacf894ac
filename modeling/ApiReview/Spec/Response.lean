import ApiReview.Spec.Operation

/-!
The schema of an operation's response, and where it is defined. References of the response and of
the schema are followed, so that the address is that of the component a fix should edit.
-/

set_option autoImplicit false

namespace ApiReview

open ApiReview.Text

/-- The response for a status code, which may also be keyed by its number. -/
def response? (responses : Node) (code : String) : Except Fault (Option Node) := do
  if ← responses.mentions code then
    match responses with
    | .object members => .ok (Members.get? members code)
    | _ => .error .wrongKind
  -- Codes without quotes are read as numbers.
  else if isIndexToken code then
    let members ← responses.asObject
    match Integer.ofFewDigits? code.toList with
    | some number => .ok (Members.findSame? members (.int (Int.ofNat number)))
    | none => .error .badValue
  else .ok none

/-- Media types that are looked for first. -/
def preferredMediaTypes : List String := ["application/json", "*/*"]

/-- The media type whose content counts: a preferred one, else the first. -/
def mediaType? (content : Node) : Except Fault (Option Node) := do
  let mentioned ← preferredMediaTypes.filterM content.mentions
  match mentioned with
  | mediaType :: _ => .ok (some (.str mediaType))
  | [] => .ok ((← content.elements).head?.filter fun node => !node.isNull)

def contentOf (content : Members) (mediaType : Node) : Option Node :=
  (content.find? fun (key, _) => key.toNode.same mediaType).map (·.2)

/-- A node and its address after following a reference, or as given if it is none. A reference
that is not local has no address. -/
def resolveWithAddress (spec : Node) (node : Node) (address : String) :
    Except Fault (Option (Members × String)) :=
  match node.get? "$ref" with
  | none => .ok (node.members?.map fun members => (members, address))
  | some reference => do
    let address? ← referenceAddress? reference
    let target? ← resolve? spec referenceLimit node
    match target?.bind Node.members?, address? with
    | some members, some address => .ok (some (members, address))
    | _, _ => .ok none

/-- The schema of the response for a status code, with the address of its definition. -/
def responseSchema? (spec : Node) (operation : Operation) (code : String) :
    Except Fault (Option (Members × String)) := do
  match ← response? (Node.optional (Members.get? operation.definition "responses")) code with
  | none => .ok none
  | some response =>
    let address := Address.ofResponse operation.path operation.method code
    match ← resolveWithAddress spec response address with
    | none => .ok none
    | some (response, address) =>
      let content := Node.optional (Members.get? response "content")
      match ← mediaType? content with
      | none => .ok none
      | some mediaType =>
        let media ← (Node.optional (contentOf (← content.asObject) mediaType)).asObject
        match Members.get? media "schema" with
        | none => .ok none
        | some schema =>
          resolveWithAddress spec schema (Address.contentSchema address mediaType.display)

end ApiReview
