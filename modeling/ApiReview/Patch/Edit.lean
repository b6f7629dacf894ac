import ApiReview.Address.Basic
import ApiReview.Node.Shape
import ApiReview.Number.Integer

/-!
Edits of a document at a pointer: adding, replacing and removing the part that the pointer's
tokens lead to. An edit whose pointer does not fit the document is in conflict with it.
-/

set_option autoImplicit false

namespace ApiReview

open ApiReview.Text

def pointerChar (c : Char) : List Char :=
  if c = '~' then ['~', '0'] else if c = '/' then ['~', '1'] else [c]

def Part.token : Part → String
  | .name text => text
  | .position index => toString index

def pointerText (parts : List Part) : String :=
  String.ofList (parts.flatMap fun part => '/' :: part.token.toList.flatMap pointerChar)

/-- A way to edit a document at the tokens of a pointer. -/
inductive Edit
  | add (path : List String) (value : Node)
  | replace (path : List String) (value : Node)
  | remove (path : List String)
  /-- Replaces an object by a new one with the same members, of which one has another key. -/
  | renameKey (path : List String) (old new : String)

/-- Why an edit was not made. -/
inductive EditError
  /-- The pointer does not fit the document. -/
  | conflict
  /-- The document has a shape for which the edit has no meaning. -/
  | fault (fault : Fault)
  deriving DecidableEq, Repr

/-- The position that a token means in a list: plain digits, of which more than one do not start
with a zero. A position with too many digits has no value. -/
def listPosition (token : String) : Except EditError Nat :=
  let digits := token.toList
  if digits.isEmpty || !digits.all Letter.isAsciiDigit then .error .conflict
  else if digits.head? == some '0' && 1 < digits.length then .error .conflict
  else if Integer.isTooLong digits then .error (.fault .badValue)
  else
    match Integer.ofDigits? digits with
    | some position => .ok position
    | none => .error .conflict

namespace Shape

variable {Child : Type}

def child (token : String) : Shape Child → Except EditError Child
  | .object members =>
    match Members.get? members token with
    | some child => .ok child
    | none => .error .conflict
  | .list items => do
    match items[← listPosition token]? with
    | some child => .ok child
    | none => .error .conflict
  | .scalar _ => .error .conflict

/-- Adds a part: a member in its place or at the end, an item before the one at its position. The
token `-` stands for the end of a list. -/
def add (value : Child) (token : String) : Shape Child → Except EditError (Shape Child)
  | .object members => .ok (.object (Members.put (.str token) value members))
  | .list items =>
    if token = "-" then .ok (.list (items ++ [value]))
    else do
      let position ← listPosition token
      if position ≤ items.length then .ok (.list (items.insertIdx position value))
      else .error .conflict
  | .scalar _ => .error .conflict

def withChild (value : Child) (token : String) : Shape Child → Except EditError (Shape Child)
  | .object members =>
    if Members.has members token then .ok (.object (Members.put (.str token) value members))
    else .error .conflict
  | .list items => do
    let position ← listPosition token
    if position < items.length then .ok (.list (items.set position value)) else .error .conflict
  | .scalar _ => .error .conflict

/-- Replaces a part that is there. The token `-`, which stands for the end of a list, never names
one, not even as the name of a member. -/
def replace (value : Child) (token : String) (shape : Shape Child) :
    Except EditError (Shape Child) :=
  if token = "-" then .error .conflict else shape.withChild value token

def remove (token : String) : Shape Child → Except EditError (Shape Child)
  | .object members =>
    if Members.has members token then .ok (.object (Members.erase (.str token) members))
    else .error .conflict
  | .list items => do
    let position ← listPosition token
    if position < items.length then .ok (.list (items.eraseIdx position)) else .error .conflict
  | .scalar _ => .error .conflict

def renameKey (old new : String) : Shape Child → Except EditError (Shape Child)
  | .object members => .ok (.object (Members.renameKey (.str old) (.str new) members))
  | _ => .error .conflict

end Shape

namespace Node

def partAt : List String → Node → Except EditError Node
  | [], node => .ok node
  | token :: rest, node => do partAt rest (← node.shape.child token)

/-- The node with the part behind the leading tokens edited by what the last token is given to. -/
def editAt (edit : String → Shape Node → Except EditError (Shape Node)) :
    List String → Node → Except EditError Node
  | [], _ => .error .conflict
  | [last], node => do .ok (← edit last node.shape).toNode
  | token :: next :: rest, node => do
    let child ← node.shape.child token
    let child ← editAt edit (next :: rest) child
    .ok (← node.shape.withChild child token).toNode

/-- The document with a value in place of the part that tokens lead to, which is there. -/
def replaceAt (value : Node) : List String → Node → Except EditError Node
  | [], _ => .ok value
  | path, document => editAt (Shape.replace value) path document

end Node

namespace Edit

/-- The document with the edit made. Removing the whole document is a conflict. -/
def apply (edit : Edit) (document : Node) : Except EditError Node :=
  match edit with
  | .add [] value => .ok value
  | .add path value => document.editAt (Shape.add value) path
  | .replace path value => Node.replaceAt value path document
  | .remove path => document.editAt Shape.remove path
  | .renameKey path old new => do
    let part ← document.partAt path
    Node.replaceAt (← part.shape.renameKey old new).toNode path document

end Edit

end ApiReview
