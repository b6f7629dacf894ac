import ApiReview.Node.Basic

/-!
When two documents say the same. Numbers are equal by value across their kinds and a flag counts
as the number zero or one; the order of object members does not matter.
-/

set_option autoImplicit false

namespace ApiReview

/-- What a scalar counts as in a comparison of numbers. -/
inductive Quantity
  | whole (number : Int)
  | binary (number : Binary64)

namespace Quantity

/-- The value that orders a quantity among the others. -/
def value : Quantity → Binary64.Value
  | .whole number => .finite (number < 0) number.natAbs 0
  | .binary number => number.value

/-- Orders two quantities exactly; nothing when one of them is no number. -/
def compare? (left right : Quantity) : Option Ordering := left.value.compare? right.value

def same (left right : Quantity) : Bool := compare? left right == some .eq

end Quantity

def Node.quantity? : Node → Option Quantity
  | .bool flag => some (.whole (if flag then 1 else 0))
  | .int number => some (.whole number)
  | .float number => some (.binary number)
  | _ => none

def Node.sameScalar : Node → Node → Bool
  | .null, .null => true
  | .str left, .str right => left == right
  | .time left, .time right => left.same right
  | left, right =>
    match left.quantity?, right.quantity? with
    | some left, some right => left.same right
    | _, _ => false

def Key.same (left right : Key) : Bool := left.toNode.sameScalar right.toNode

def Members.findSame? {Value : Type} (members : List (Key × Value)) (key : Key) : Option Value :=
  (members.find? fun member => member.1.same key).map (·.2)

mutual

/-- Whether two documents say the same. -/
def Node.same : Node → Node → Bool
  | .list left, .list right => Node.sameItems left right
  | .object left, .object right => left.length == right.length && Node.sameMembers left right
  | left, right => left.sameScalar right

/-- Whether two lists hold the same items in the same order. -/
def Node.sameItems : List Node → List Node → Bool
  | [], [] => true
  | left :: lefts, right :: rights => left.same right && Node.sameItems lefts rights
  | _, _ => false

def Node.sameMembers : List (Key × Node) → List (Key × Node) → Bool
  | [], _ => true
  | (key, value) :: rest, members =>
    (match Members.findSame? members key with
      | some other => value.same other
      | none => false) && Node.sameMembers rest members

end

def Node.isAmong (node : Node) (items : List Node) : Bool := items.any node.same

/-- Adds a member as a mapping literal does: a key that is already there keeps its place and
spelling and takes the new value. -/
def Members.define {Value : Type} (key : Key) (value : Value) (members : List (Key × Value)) :
    List (Key × Value) :=
  match members.find? fun member => member.1.same key with
  | some (present, _) => Members.put present value members
  | none => members ++ [(key, value)]

end ApiReview
