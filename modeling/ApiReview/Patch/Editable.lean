import ApiReview.Node.Graph
import ApiReview.Patch.Edit

/-!
Documents that can be edited: trees, and graphs of cells. In a graph an edit changes the one cell
that a pointer's tokens lead to, and so every place at which that cell stands; a value that is put
into it gets cells of its own.
-/

set_option autoImplicit false

namespace ApiReview

/-- A kind of document that can be edited. -/
class Editable (Document : Type) where
  /-- What the document says. -/
  toNode : Document → Node
  /-- The document with an edit made. -/
  edit : Edit → Document → Except EditError Document
  /-- Whether two documents say the same. -/
  same : Document → Document → Except Fault Bool

instance : Editable Node where
  toNode := id
  edit := Edit.apply
  same left right := .ok (left.same right)

namespace Graph

/-- The number of the cell that tokens lead to from another. -/
def cellAt (graph : Graph) : List String → Nat → Except EditError Nat
  | [], number => .ok number
  | token :: rest, number => do graph.cellAt rest (← (graph.cell number).child token)

/-- The graph with the cell edited that the tokens but the last lead to, by what the last is given
to. -/
def editAt (edit : String → Shape Nat → Except EditError (Shape Nat)) (path : List String)
    (graph : Graph) : Except EditError Graph :=
  match path.getLast? with
  | none => .error .conflict
  | some last => do
    let number ← graph.cellAt path.dropLast graph.root
    .ok (graph.set number (← edit last (graph.cell number)))

/-- The graph with another cell in place of the one that tokens lead to. -/
def replaceAt (number : Nat) (path : List String) (graph : Graph) : Except EditError Graph :=
  if path.isEmpty then .ok { graph with root := number }
  else graph.editAt (Shape.replace number) path

def apply (edit : Edit) (graph : Graph) : Except EditError Graph :=
  match edit with
  | .add [] value =>
    let (graph, number) := graph.insert value
    .ok { graph with root := number }
  | .add path value =>
    let (graph, number) := graph.insert value
    graph.editAt (Shape.add number) path
  | .replace path value =>
    let (graph, number) := graph.insert value
    graph.replaceAt number path
  | .remove path => graph.editAt Shape.remove path
  | .renameKey path old new => do
    let renamed ← (graph.cell (← graph.cellAt path graph.root)).renameKey old new
    let (graph, number) := graph.push renamed
    graph.replaceAt number path

end Graph

instance : Editable Graph where
  toNode := Graph.toNode
  edit := Graph.apply
  same := Graph.same

end ApiReview
