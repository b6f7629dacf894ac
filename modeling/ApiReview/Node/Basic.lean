import ApiReview.Calendar
import ApiReview.Number.Shortest

/-!
The document tree: what a JSON or YAML document holds. Objects keep their members in document
order. A key is nearly always a string; documents read from YAML may have other scalars as keys, and
moments among their scalars.
-/

set_option autoImplicit false

namespace ApiReview

/-- The key of an object member. -/
inductive Key
  | str (name : String)
  | int (number : Int)
  | float (number : Binary64)
  | bool (flag : Bool)
  | time (moment : Moment)
  | null
  deriving DecidableEq, Repr

/-- A document or a part of one. -/
inductive Node
  | null
  | bool (flag : Bool)
  | int (number : Int)
  | float (number : Binary64)
  | str (text : String)
  | time (moment : Moment)
  | list (items : List Node)
  | object (members : List (Key × Node))
  deriving Repr

instance : Inhabited Node := ⟨.null⟩

/-- The members of an object, in document order. -/
abbrev Members := List (Key × Node)

namespace Members

variable {Value : Type}

/-- The value under a name. Only string keys are names. -/
def get? (members : List (Key × Value)) (name : String) : Option Value := members.lookup (.str name)

def has (members : List (Key × Value)) (name : String) : Bool := (get? members name).isSome

/-- Sets the value under a key: a present key keeps its place, a new one goes to the end. -/
def put (key : Key) (value : Value) : List (Key × Value) → List (Key × Value)
  | [] => [(key, value)]
  | (k, v) :: rest => if k = key then (k, value) :: rest else (k, v) :: put key value rest

/-- Removes the first member with the key. -/
def erase (key : Key) : List (Key × Value) → List (Key × Value)
  | [] => []
  | (k, v) :: rest => if k = key then rest else (k, v) :: erase key rest

/-- Gives the members with key `old` the key `new`, in their places. -/
def renameKey (old new : Key) (members : List (Key × Value)) : List (Key × Value) :=
  members.map fun (k, v) => (if k = old then new else k, v)

def ofFields (fields : List (String × Node)) : Members :=
  fields.map fun (name, value) => (.str name, value)

end Members

namespace Node

def ofFields (fields : List (String × Node)) : Node := .object (Members.ofFields fields)

/-- The members, if the node is an object. -/
def members? : Node → Option Members
  | .object members => some members
  | _ => none

/-- The items, if the node is a list. -/
def items? : Node → Option (List Node)
  | .list items => some items
  | _ => none

/-- The text, if the node is a string. -/
def text? : Node → Option String
  | .str text => some text
  | _ => none

def isObject (node : Node) : Bool := node.members?.isSome

/-- Whether the node is null. -/
def isNull : Node → Bool
  | .null => true
  | _ => false

/-- The member of an object under a name; nothing else has members. -/
def get? (node : Node) (name : String) : Option Node :=
  node.members?.bind fun members => Members.get? members name

/-- Whether the node is neither null, false, a zero nor empty. -/
def isFilled : Node → Bool
  | .null => false
  | .bool flag => flag
  | .int number => number != 0
  | .float number =>
    match number.value with
    | .finite _ mantissa _ => mantissa != 0
    | _ => true
  | .str text => text != ""
  | .time _ => true
  | .list items => !items.isEmpty
  | .object members => !members.isEmpty

end Node

def Key.toNode : Key → Node
  | .str name => .str name
  | .int number => .int number
  | .float number => .float number
  | .bool flag => .bool flag
  | .time moment => .time moment
  | .null => .null

end ApiReview
