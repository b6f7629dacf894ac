import ApiReview.Fault
import ApiReview.Node.Equality
import ApiReview.Text.Basic

/-!
Reading parts of a document whose shape nobody has checked. Each way to read says which fault a
part of another shape is.
-/

set_option autoImplicit false

namespace ApiReview.Node

def asObject : Node → Except Fault Members
  | .object members => .ok members
  | _ => .error .notAnObject

/-- The node itself if it is filled, else an empty object. -/
def orEmpty (node : Node) : Node := if node.isFilled then node else .object []

/-- The node, or an empty object in its place when it is absent or not filled. -/
def optional (node? : Option Node) : Node := (node?.getD .null).orEmpty

/-- The elements that a walk over the node meets: items, characters or keys. -/
def elements : Node → Except Fault (List Node)
  | .list items => .ok items
  | .str text => .ok (text.toList.map fun c => .str (String.ofList [c]))
  | .object members => .ok (members.map fun (key, _) => key.toNode)
  | _ => .error .wrongKind

/-- Whether a name is in the node: a key of an object, an item of a list or a part of a text. -/
def mentions (node : Node) (name : String) : Except Fault Bool :=
  match node with
  | .object members => .ok (Members.has members name)
  | .list items => .ok ((Node.str name).isAmong items)
  | .str text => .ok (Text.contains text name)
  | _ => .error .wrongKind

end ApiReview.Node
