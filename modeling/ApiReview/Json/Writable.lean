import ApiReview.Json.Writer
import ApiReview.Node.Graph

/-!
Which documents have a text in JSON: not those with a part inside itself, with moments, or with
numbers of too many digits. The first obstacle in the order of the text counts.
-/

set_option autoImplicit false

namespace ApiReview.Json

def scalarObstacle? : Node → Option Fault
  | .time _ => some .wrongKind
  | .int number => if Integer.isUnwritable number then some .badValue else none
  | _ => none

/-- Checks that a cell can be written, with a limit of levels. -/
def checkCell (graph : Graph) : Nat → List Nat → Nat → Except Fault Unit
  | 0, _, _ => .error .badValue
  | limit + 1, above, number =>
    let check := checkCell graph limit (number :: above)
    let isOpen := above.contains number
    match graph.cell number with
    | .scalar value => (scalarObstacle? value).elim (.ok ()) .error
    | .list items => if isOpen then .error .badValue else items.forM check
    | .object members =>
      if isOpen then .error .badValue
      else members.forM fun (key, value) =>
        match scalarObstacle? key.toNode with
        | some fault => .error fault
        | none => check value

def write (style : Node → String) (graph : Graph) : Except Fault String := do
  checkCell graph (graph.cells.size + 2) [] graph.root
  .ok (style graph.toNode)

end ApiReview.Json
