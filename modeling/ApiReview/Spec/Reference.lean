import ApiReview.Address.Builder

/-!
Local references between parts of a document. A reference leads from the root through members and
list positions; one that leads nowhere is not a fault but has no target.
-/

set_option autoImplicit false

namespace ApiReview

open ApiReview.Text

/-- Whether a token is made of digits. Some digits write no number, nor do too many of them. -/
def isIndexToken (token : String) : Bool :=
  !token.isEmpty && token.toList.all Letter.isDigit

/-- The node that names and positions lead to. A token of digits that write no number is a bad
value for a position. -/
def descend? : List String → Node → Except Fault (Option Node)
  | [], node => .ok (some node)
  | name :: rest, .object members =>
    match Members.get? members name with
    | some value => descend? rest value
    | none => .ok none
  | name :: rest, .list items =>
    if isIndexToken name then
      match Integer.ofFewDigits? name.toList with
      | some index =>
        match items[index]? with
        | some item => descend? rest item
        | none => .ok none
      | none => .error .badValue
    else .ok none
  | _ :: _, _ => .ok none

def follow? (spec : Node) (reference : String) : Except Fault (Option Node) :=
  match Address.referenceNames? reference with
  | some names => descend? names spec
  | none => .ok none

/-- The number of references in a row that are followed. -/
def referenceLimit : Nat := 16

/-- The node at the end of a chain of reference objects, if the chain ends before the limit. -/
def resolve? (spec : Node) : Nat → Node → Except Fault (Option Node)
  -- A chain longer than the limit, as one that leads back into itself, has no end.
  | 0, _ => .ok none
  | limit + 1, node =>
    match node.get? "$ref" with
    | none => .ok (some node)
    | some (.str reference) => do
      match ← follow? spec reference with
      | some target => resolve? spec limit target
      | none => .ok none
    | some _ => .ok none

/-- The address of a reference's target; nothing for one that is not local. A reference has to be
a text. -/
def referenceAddress? : Node → Except Fault (Option String)
  | .str reference => .ok (Address.ofReference reference).toOption
  | _ => .error .notAnObject

end ApiReview
