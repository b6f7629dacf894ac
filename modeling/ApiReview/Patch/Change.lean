import ApiReview.Address.Reader
import ApiReview.Fix.Basic
import ApiReview.Patch.Editable

/-!
Primitive changes of a document. A change is planned as edits against the document as it is and
then carried out; a change that is already in effect needs no edits. Path items and operations are
never created on the way to something else: a change aimed at one that does not exist is stale.
-/

set_option autoImplicit false

namespace ApiReview

open ApiReview.Text

/-- Why a change is refused. -/
inductive PatchError
  | address (error : AddressError)
  | staleTarget (pointer : String)
  | noObjectAbove (pointer : String)
  | scalarAbove (pointer : String)
  | conflict (kind : ChangeKind) (place : String)
  | renameIncomplete (place : String)
  | notAnObject (place : String)
  | keyMissing (key place : String)
  | keyTaken (key place : String)
  | outOfRange (place : String)
  | notAList (place : String)
  | mergeKind (kindName place : String)
  | mergeIntoScalar (place : String)
  deriving DecidableEq, Repr

def PatchError.message : PatchError → String
  | .address error => error.message
  | .staleTarget pointer => pointer ++ " does not exist"
  | .noObjectAbove pointer => "Cannot create " ++ pointer ++ ": parent is not an object"
  | .scalarAbove pointer => "Cannot descend into scalar at " ++ pointer
  | .conflict kind place => kind.name ++ " at " ++ place ++ " failed"
  | .renameIncomplete place => "rename-key at " ++ place ++ " needs 'from' and 'to'"
  | .notAnObject place => place ++ " is not an object"
  | .keyMissing key place => "Key '" ++ key ++ "' not found at " ++ place
  | .keyTaken key place => "Key '" ++ key ++ "' already exists at " ++ place
  | .outOfRange place => "Index out of range at " ++ place
  | .notAList place => place ++ " is not a list"
  | .mergeKind kindName place => "Cannot merge a " ++ kindName ++ " into the object at " ++ place
  | .mergeIntoScalar place => "Cannot merge into a scalar at " ++ place

/-- Why a change was not made: it was refused, or the document has a shape that it has no answer
to. -/
inductive ChangeError
  | refused (error : PatchError)
  | fault (fault : Fault)
  deriving DecidableEq, Repr

/-- The part of a node that one step leads to. A negative position in front of the list's start is
out of range. -/
def Node.child? (part : Part) : Node → Except Fault (Option Node)
  | .object members =>
    match part with
    | .name name => .ok (Members.get? members name)
    | .position index => .ok (members.lookup (.int index))
  | .list items =>
    match part with
    | .name _ => .ok none
    | .position index =>
      if Int.ofNat items.length ≤ index then .ok none
      else
        match itemAt? items index with
        | some item => .ok (some item)
        | none => .error .outOfRange
  | _ => .ok none

/-- The node that steps lead to, if it exists. -/
def Node.lookup? : List Part → Node → Except Fault (Option Node)
  | [], node => .ok (some node)
  | part :: rest, node => do
    match ← node.child? part with
    | some child => Node.lookup? rest child
    | none => .ok none

/-- Whether two items of a list stand for the same thing. Parameters do when name and location
agree, names of headers without regard to case; anything else when it is equal. -/
def sameItem (left right : Node) : Bool :=
  match left, right with
  | .object leftMembers, .object rightMembers =>
    match Members.get? leftMembers "name", Members.get? leftMembers "in" with
    | some name, some location =>
      -- The right item is compared as a parameter even when it has no name or location.
      let otherLocation := (Members.get? rightMembers "in").getD .null
      let otherName := Members.get? rightMembers "name"
      if !location.same otherLocation then false
      else if location.same (.str "header") then
        lower name.display == lower (otherName.getD (.str "")).display
      else name.same (otherName.getD .null)
    | _, _ => left.same right
  | _, _ => left.same right

/-- Items of which none is the same as an earlier one. -/
def withoutRepeats (items : List Node) : List Node :=
  items.foldl (fun kept item => if kept.any (sameItem item) then kept else kept ++ [item]) []

/-- The items that are the same as none before them, neither in the list nor among themselves. -/
def newItems (present items : List Node) : List Node :=
  (items.foldl (fun (known, fresh) item =>
    if known.any (sameItem item) then (known, fresh) else (known ++ [item], fresh ++ [item]))
    (present, ([] : List Node))).2

def tokensOf (parts : List Part) : List String := parts.map Part.token

/-- Whether a step at a depth must not create what is missing: below the paths, these are path
items and operations. -/
def isProtected (root : Part) (depth : Nat) : Bool :=
  root = .name "paths" && 0 < depth && depth < 3

def hasMember (node : Node) (part : Part) : Bool :=
  match node with
  | .object members =>
    match part with
    | .name name => Members.has members name
    | .position index => (members.lookup (.int index)).isSome
  | _ => false

/-- Creates the objects on the way to a part, of which the steps in `done` are taken and the node
there does not exist. -/
def createParents (root : Part) (done : List Part) : List Part → Except ChangeError (List Edit)
  | [] => .ok []
  | [_] => .ok []
  | part :: rest =>
    let here := done ++ [part]
    if isProtected root done.length then .error (.refused (.staleTarget (pointerText here)))
    else do
      let edits ← createParents root here rest
      .ok (.add (tokensOf here) (.object []) :: edits)

/-- Walks the way to a part, of which the steps in `done` lead to the node, and creates the
missing objects on it. -/
def ensureParents (root : Part) (node : Node) (done : List Part) :
    List Part → Except ChangeError (List Edit)
  | [] => .ok []
  | [_] => .ok []
  | part :: rest => do
    let here := done ++ [part]
    -- Only members count: below the paths, an item of a list is refused like a missing path item.
    if !hasMember node part && isProtected root done.length then
      .error (.refused (.staleTarget (pointerText here)))
    else
      match ← (node.child? part).mapError ChangeError.fault with
      | some child =>
        match child with
        | .object _ | .list _ => ensureParents root child here rest
        | _ => .error (.refused (.scalarAbove (pointerText here)))
      | none =>
        if node.isObject then do
          let edits ← createParents root here rest
          .ok (.add (tokensOf here) (.object []) :: edits)
        else .error (.refused (.noObjectAbove (pointerText here)))

/-- The edits that create the objects on the way to a part. -/
def parentEdits (document : Node) : List Part → Except ChangeError (List Edit)
  | [] => .ok []
  | root :: rest => ensureParents root document [] (root :: rest)

/-- The node at the end of a way, with faults as errors of the change. -/
def lookupFor (document : Node) (parts : List Part) : Except ChangeError (Option Node) :=
  (document.lookup? parts).mapError .fault

namespace Change

def locate (change : Change) (document : Node) : Except ChangeError (List Part) :=
  (Address.locate document change.address).mapError fun error =>
    match error with
    | .refused error => .refused (.address error)
    | .fault fault => .fault fault

def refuse {Result : Type} (error : PatchError) : Except ChangeError Result :=
  .error (.refused error)

/-- Renames a key, which keeps its place. A key that is already renamed is left alone. -/
def planRename (change : Change) (document : Node) : Except ChangeError (List Edit) :=
  match change.from?, change.to? with
  | some old, some new => do
    let parts ← change.locate document
    match ← lookupFor document parts with
    | some (.object members) =>
      let hasOld := Members.has members old
      let hasNew := Members.has members new
      -- An earlier fix may have renamed the key already.
      if !hasOld && hasNew then .ok []
      else if !hasOld then refuse (.keyMissing old change.address)
      else if hasNew then refuse (.keyTaken new change.address)
      else .ok [.renameKey (tokensOf parts) old new]
    | _ => refuse (.notAnObject change.address)
  | _, _ => refuse (.renameIncomplete change.address)

/-- Sets a value, creating the objects on the way to it. -/
def planSet (change : Change) (document : Node) : Except ChangeError (List Edit) := do
  let parts ← change.locate document
  if parts.isEmpty then .ok [.replace [] change.value]
  else
    let edits ← parentEdits document parts
    let found? ← lookupFor document parts
    match ← lookupFor document parts.dropLast with
    -- A list does not grow by setting: a position has to be there.
    | some (.list _) =>
      if found?.isSome then .ok (edits ++ [.replace (tokensOf parts) change.value])
      else refuse (.outOfRange change.address)
    | _ => .ok (edits ++ [.add (tokensOf parts) change.value])

/-- Adds an item to a list that does not have it, creating the list if need be. -/
def planAdd (change : Change) (document : Node) : Except ChangeError (List Edit) := do
  let parts ← change.locate document
  match ← lookupFor document parts with
  | none =>
    let edits ← parentEdits document parts
    .ok (edits ++ [.add (tokensOf parts) (.list [change.value])])
  | some (.list items) =>
    if items.any (sameItem change.value) then .ok []
    else .ok [.add (tokensOf parts ++ ["-"]) change.value]
  | some _ => refuse (.notAList change.address)

/-- Removes a value, if it is there. -/
def planRemove (change : Change) (document : Node) : Except ChangeError (List Edit) :=
  match change.locate document with
  | .error (.fault fault) => .error (.fault fault)
  -- An address that leads nowhere, for whatever reason, leaves nothing to remove.
  | .error (.refused _) => .ok []
  | .ok parts => do
    match ← lookupFor document parts with
    | some _ => .ok [.remove (tokensOf parts)]
    | none => .ok []

def mergedItems : Node → List Node
  | .list items => items
  | value => [value]

/-- What a merge leaves where nothing was. -/
def mergedValue : Node → Node
  | .list items => .list (withoutRepeats items)
  | value => value

/-- Merges a value into a list, which takes the items it does not have, or into an object, which
takes all members; creates the place if need be. -/
def planMerge (change : Change) (document : Node) : Except ChangeError (List Edit) := do
  let parts ← change.locate document
  let path := tokensOf parts
  match ← lookupFor document parts with
  | none =>
    let edits ← parentEdits document parts
    .ok (edits ++ [.add path (mergedValue change.value)])
  | some (.list items) =>
    .ok ((newItems items (mergedItems change.value)).map (.add (path ++ ["-"])))
  | some (.object _) =>
    match change.value with
    | .object members =>
      .ok (members.map fun (key, value) => .add (path ++ [key.display]) value)
    | value => refuse (.mergeKind value.kindName change.address)
  | some _ => refuse (.mergeIntoScalar change.address)

def plan (change : Change) (document : Node) : Except ChangeError (List Edit) :=
  match change.kind with
  | .renameKey => change.planRename document
  | .set => change.planSet document
  | .add => change.planAdd document
  | .remove => change.planRemove document
  | .merge => change.planMerge document

/-- The document with several edits made, one after the other. -/
def carryOut {Document : Type} [Editable Document] (change : Change) (edits : List Edit)
    (document : Document) : Except ChangeError Document :=
  (edits.foldlM (fun document edit => Editable.edit edit document) document).mapError fun error =>
    match error with
    | .conflict => .refused (.conflict change.kind change.address)
    | .fault fault => .fault fault

def apply {Document : Type} [Editable Document] (change : Change) (document : Document) :
    Except ChangeError Document := do
  change.carryOut (← change.plan (Editable.toNode document)) document

end Change

end ApiReview
