import ApiReview.Node.Access
import ApiReview.Node.Display

/-!
Addresses of document parts. An address is a list of selectors that start at the root; matching
one yields the selected parts in order, each with the steps that lead to it.
-/

set_option autoImplicit false

namespace ApiReview

/-- One step from a node to a part of it. -/
inductive Part
  | name (name : String)
  | position (index : Int)
  deriving DecidableEq, Repr

/-- A choice among the parts of a node that does not look into them. -/
inductive Step
  /-- The members with these names, as far as they exist. -/
  | names (names : List String)
  /-- The items at these positions, as far as they exist; negative ones count from the end. -/
  | positions (indexes : List Int)
  /-- All members or items. -/
  | every
  /-- The items from one position up to another. -/
  | slice (start stop : Option Int)
  deriving DecidableEq, Repr

/-- A relation between values. -/
inductive Relation
  | equal
  | unequal
  | less
  | atMost
  | greater
  | atLeast
  deriving DecidableEq, Repr

/-- A scalar that values are compared with. -/
inductive Literal
  | null
  | bool (flag : Bool)
  | int (number : Int)
  | float (number : Binary64)
  | str (text : String)
  deriving DecidableEq, Repr

/-- A condition on a node: that a part of it exists or relates to a literal. -/
structure Condition where
  steps : List Step
  test? : Option (Relation × Literal)
  /-- Whether the way behind the steps is crossed with another one, which has no meaning. -/
  crossed : Bool := false
  deriving DecidableEq, Repr

/-- A choice among the parts of a node. -/
inductive Selector
  | step (step : Step)
  /-- The items or members that satisfy all conditions. -/
  | filter (conditions : List Condition)
  /-- Two ways that are crossed, which has no meaning. -/
  | crossing
  deriving DecidableEq, Repr

abbrev Address := List Selector

/-- The step that leads to a member with the key. -/
def Key.toPart : Key → Part
  | .str name => .name name
  | .int number => .position number
  | key => .name key.display

/-- An item of a list; a negative position counts from the end. -/
def itemAt? (items : List Node) (index : Int) : Option Node :=
  if 0 ≤ index then items[index.toNat]?
  else if -Int.ofNat items.length ≤ index then items[(Int.ofNat items.length + index).toNat]?
  else none

def numbered (items : List Node) : List (Part × Node) :=
  items.zipIdx.map fun (item, index) => (.position (Int.ofNat index), item)

/-- The position that a bound of a slice means. -/
def sliceBound (size : Nat) (bound : Int) : Nat :=
  if bound < 0 then (Int.ofNat size + bound).toNat else min size bound.toNat

namespace Step

/-- The selected parts of a node, in order. -/
def select : Step → Node → List (Part × Node)
  | .names wanted, .object members =>
    wanted.filterMap fun name => (Members.get? members name).map fun value => (.name name, value)
  | .positions indexes, .list items =>
    indexes.filterMap fun index => (itemAt? items index).map fun item => (.position index, item)
  | .every, .object members => members.map fun (key, value) => (key.toPart, value)
  | .every, .list items => numbered items
  | .slice start stop, .list items =>
    let first := sliceBound items.length (start.getD 0)
    let last := sliceBound items.length (stop.getD (Int.ofNat items.length))
    ((numbered items).take last).drop first
  | _, _ => []

/-- The part that the step names when it is to be created: a single name, or the first of the
positions. -/
def newPart? : Step → Option Part
  | .names [name] => some (.name name)
  | .positions (index :: _) => some (.position index)
  | _ => none

def walk : List Step → Node → List Node
  | [], node => [node]
  | step :: rest, node => (step.select node).flatMap fun (_, part) => walk rest part

end Step

namespace Relation

/-- Whether the relation holds for two values in the given order. -/
def holdsFor (relation : Relation) (order : Ordering) : Bool :=
  match relation with
  | .equal => order == .eq
  | .unequal => order != .eq
  | .less => order == .lt
  | .atMost => order != .gt
  | .greater => order == .gt
  | .atLeast => order != .lt

end Relation

/-- Orders two texts by code point. -/
def compareTexts (left right : String) : Ordering :=
  if left = right then .eq else if left < right then .lt else .gt

/-- Orders a node and a literal of the same kind. Numbers compare by value; flags, nulls and nodes
of different kinds are unordered unless they are equal. -/
def Literal.compare? : Literal → Node → Option Ordering
  | .str right, .str left => some (compareTexts left right)
  | .int right, .int left => some (compare left right)
  | .int right, .float left => (Quantity.binary left).compare? (.whole right)
  | .float right, .int left => (Quantity.whole left).compare? (.binary right)
  | .float right, .float left => (Quantity.binary left).compare? (.binary right)
  | .bool right, .bool left => if left == right then some .eq else none
  | .null, .null => some .eq
  | _, _ => none

namespace Condition

/-- Whether a value relates to the literal. Values of different kinds are only unequal. -/
def relates (relation : Relation) (literal : Literal) (value : Node) : Bool :=
  match literal.compare? value with
  | some order => relation.holdsFor order
  | none => relation == .unequal

/-- Whether a node satisfies the condition. A part that does not exist is only unequal to any
literal. -/
def holds (condition : Condition) (node : Node) : Bool :=
  let values := Step.walk condition.steps node
  match condition.test? with
  | none => !values.isEmpty
  | some (relation, literal) =>
    if values.isEmpty then relation == .unequal else values.any (relates relation literal)

/-- Whether trying the condition on a node comes to where its way is crossed. -/
def crosses (condition : Condition) (node : Node) : Bool :=
  condition.crossed && !(Step.walk condition.steps node).isEmpty

end Condition

namespace Selector

def candidates : Node → List (Part × Node)
  | .object members => members.map fun (key, value) => (key.toPart, value)
  | .list items => numbered items
  | _ => []

/-- The selected parts of a node, in order. -/
def select : Selector → Node → List (Part × Node)
  | .step choice, node => choice.select node
  | .filter conditions, node =>
    (candidates node).filter fun (_, part) => conditions.all (·.holds part)
  | .crossing, _ => []

/-- The part that the selector names when it is to be created. -/
def newPart? : Selector → Option Part
  | .step choice => choice.newPart?
  | .filter _ | .crossing => none

/-- Whether choosing among the parts of a node comes to where ways are crossed. -/
def crosses : Selector → Node → Bool
  | .step _, _ => false
  | .filter conditions, node =>
    (candidates node).any fun (_, part) => conditions.any (·.crosses part)
  | .crossing, _ => true

end Selector

namespace Address

/-- The matches of an address in a node, in order: the way to each and the node there. -/
def find : Address → Node → List (List Part × Node)
  | [], node => [([], node)]
  | selector :: rest, node =>
    (selector.select node).flatMap fun (part, child) =>
      (find rest child).map fun (parts, found) => (part :: parts, found)

/-- Whether following an address from a node comes to where ways are crossed. -/
def crosses : Address → Node → Bool
  | [], _ => false
  | selector :: rest, node =>
    selector.crosses node || (selector.select node).any fun (_, child) => crosses rest child

/-- The way to the first match of an address, given backwards, followed by `missing`. As long as
nothing matches, the last selector is dropped, if it names a part that could be created. -/
def locateBackwards (document : Node) : List Selector → List Part → Option (List Part)
  | [], missing => some missing
  | last :: before, missing =>
    match (find (before.reverse ++ [last]) document).head? with
    | some (parts, _) => some (parts ++ missing)
    | none => last.newPart?.bind fun part => locateBackwards document before (part :: missing)

/-- The way to the part that an address means, whether it exists or could be created; nothing when
a selector that has to match does not. -/
def locate? (address : Address) (document : Node) : Option (List Part) :=
  locateBackwards document address.reverse []

end Address

end ApiReview
