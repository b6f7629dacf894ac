import ApiReview.Fault
import ApiReview.Node.Equality
import ApiReview.Node.Shape
import ApiReview.Number.Integer

/-!
Documents whose parts may stand at several places. The parts are cells with numbers, and a list or
an object holds the numbers of its parts, so that a change of a cell shows wherever it stands. A
cell may even stand inside itself. A document tree is what a graph shows from its root.
-/

set_option autoImplicit false

namespace ApiReview

/-- A document as numbered cells, of which one is the root. -/
structure Graph where
  cells : Array (Shape Nat) := #[]
  root : Nat := 0

namespace Graph

def cell (graph : Graph) (number : Nat) : Shape Nat := graph.cells.getD number (.scalar .null)

/-- The graph with a cell more, and its number. -/
def push (graph : Graph) (cell : Shape Nat) : Graph × Nat :=
  ({ graph with cells := graph.cells.push cell }, graph.cells.size)

def set (graph : Graph) (number : Nat) (cell : Shape Nat) : Graph :=
  { graph with cells := graph.cells.setIfInBounds number cell }

/-! ## Trees and graphs -/

mutual

/-- The graph with cells of its own for a tree, and the number of the tree's root. -/
def insert (graph : Graph) : Node → Graph × Nat
  | .list items =>
    let (graph, numbers) := graph.insertItems items
    graph.push (.list numbers)
  | .object members =>
    let (graph, numbers) := graph.insertMembers members
    graph.push (.object numbers)
  | value => graph.push (.scalar value)

/-- The graph with cells for items, and their numbers. -/
def insertItems (graph : Graph) : List Node → Graph × List Nat
  | [] => (graph, [])
  | item :: rest =>
    let (graph, number) := graph.insert item
    let (graph, numbers) := graph.insertItems rest
    (graph, number :: numbers)

/-- The graph with cells for members, and their keys and numbers. -/
def insertMembers (graph : Graph) : List (Key × Node) → Graph × List (Key × Nat)
  | [] => (graph, [])
  | (key, value) :: rest =>
    let (graph, number) := graph.insert value
    let (graph, numbers) := graph.insertMembers rest
    (graph, (key, number) :: numbers)

end

/-- The graph of a tree, in which every part stands at one place. -/
def ofNode (node : Node) : Graph :=
  let (graph, root) := insert {} node
  { graph with root }

/-- The trees of cells that are known already. A cell from which no way leads back into itself has
the same tree wherever it stands. -/
abbrev KnownTrees := Array (Option Node)

/-- Notes the tree of a cell if it is whole, and gives both. -/
def note (number : Nat) (tree : Node) (isWhole : Bool) : StateM KnownTrees (Node × Bool) := do
  if isWhole then modify (·.setIfInBounds number (some tree))
  return (tree, isWhole)

/-- The tree below a cell, with a limit of levels, and whether it is whole. A cell that stands
inside itself is empty there, and what is around it is not whole. -/
def treeAt (graph : Graph) : Nat → List Nat → Nat → StateM KnownTrees (Node × Bool)
  | 0, _, _ => return (.null, false)
  | limit + 1, above, number => do
    let known := (← get).getD number none
    let isOpen := above.contains number
    match known, graph.cell number with
    | some tree, _ => return (tree, true)
    | none, .scalar value => return (value, true)
    -- What was seen below an open cell depends on where the walk came from, so it is not noted.
    | none, .list items =>
      if isOpen then return (.list [], false)
      else
        let trees ← items.mapM (graph.treeAt limit (number :: above))
        note number (.list (trees.map (·.1))) (trees.all (·.2))
    | none, .object members =>
      if isOpen then return (.object [], false)
      else
        let trees ← (members.map (·.2)).mapM (graph.treeAt limit (number :: above))
        note number (.object ((members.map (·.1)).zip (trees.map (·.1)))) (trees.all (·.2))

/-- The tree that a graph shows. A way through different cells has at most as many levels as there
are cells, and one more where a cell stands inside itself. -/
def toNode (graph : Graph) : Node :=
  let known : KnownTrees := Array.replicate graph.cells.size none
  ((graph.treeAt (graph.cells.size + 2) [] graph.root).run known).1.1

/-! ## Comparison -/

/-- Whether two scalars are the same, or alike as values that are not the same as themselves. -/
def alike (left right : Node) : Bool :=
  match left, right with
  | .float left, .float right => left == right || (Node.float left).sameScalar (.float right)
  | left, right => left.sameScalar right

/-- Whether a test holds of every entry, in order; the first that fails ends it. -/
def allOf {Entry : Type} (test : Entry → Except Fault Bool) : List Entry → Except Fault Bool
  | [] => .ok true
  | entry :: rest => do if ← test entry then allOf test rest else .ok false

/-- Whether two cells say the same, with a limit of levels. -/
def sameCells (left right : Graph) : Nat → Nat → Nat → Except Fault Bool
  | 0, _, _ => .error .endless
  | limit + 1, first, second =>
    match left.cell first, right.cell second with
    | .scalar value, .scalar other => .ok (alike value other)
    | .list items, .list others =>
      if items.length = others.length then
        allOf (fun (item, other) => sameCells left right limit item other) (items.zip others)
      else .ok false
    | .object members, .object others =>
      if members.length = others.length then
        allOf (fun (key, value) =>
          match Members.findSame? others key with
          | some other => sameCells left right limit value other
          | none => .ok false) members
      else .ok false
    | _, _ => .ok false

/-- Whether two graphs say the same. A way along which a pair of cells comes again has no end, and
there are no more pairs than the limit allows. -/
def same (left right : Graph) : Except Fault Bool :=
  sameCells left right (left.cells.size * right.cells.size + 2) left.root right.root

/-! ## Where a cell stands -/

/-- Whether a cell can be told apart from an equal one: all but the plain scalars. -/
def isShareable : Shape Nat → Bool
  | .scalar (.time _) => true
  | .scalar _ => false
  | _ => true

/-- Cells met on a tour. -/
structure Tour where
  /-- How often each cell was met. -/
  visits : Array Nat
  /-- The cells met again, in the order of their second visits, the last one first. -/
  repeated : List Nat := []

/-- Tours the cells below one, each of them once, with a limit of levels. -/
def tourFrom (graph : Graph) : Nat → Tour → Nat → Tour
  | 0, tour, _ => tour
  | limit + 1, tour, number =>
    let cell := graph.cell number
    if !isShareable cell then tour
    else
      let count := tour.visits.getD number 0
      let tour := { tour with visits := tour.visits.setIfInBounds number (count + 1) }
      -- Only the first visit goes on, so the tour ends in graphs that lead back into themselves.
      if count = 0 then cell.children.foldl (graph.tourFrom limit) tour
      else if count = 1 then { tour with repeated := number :: tour.repeated }
      else tour

/-- The cells that stand at more than one place, in the order in which that shows. -/
def sharedCells (graph : Graph) : List Nat :=
  let tour : Tour := { visits := Array.replicate graph.cells.size 0 }
  (graph.tourFrom (graph.cells.size + 1) tour graph.root).repeated.reverse

end Graph

end ApiReview
