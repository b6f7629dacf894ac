import ApiReview.Node.Basic

/-!
What a part of a document is made of, seen without looking into its own parts: nothing further, or
parts in order, or parts under keys. A document tree and a graph of cells have the same shapes and
differ in what stands for a part.
-/

set_option autoImplicit false

namespace ApiReview

/-- A scalar, or the parts of a list or an object. -/
inductive Shape (Child : Type)
  | scalar (value : Node)
  | list (items : List Child)
  | object (members : List (Key × Child))

def Node.shape : Node → Shape Node
  | .list items => .list items
  | .object members => .object members
  | value => .scalar value

namespace Shape

def toNode : Shape Node → Node
  | .scalar value => value
  | .list items => .list items
  | .object members => .object members

/-- The parts, in order. -/
def children {Child : Type} : Shape Child → List Child
  | .scalar _ => []
  | .list items => items
  | .object members => members.map (·.2)

theorem toNode_shape (node : Node) : node.shape.toNode = node := by cases node <;> rfl

end Shape

end ApiReview
