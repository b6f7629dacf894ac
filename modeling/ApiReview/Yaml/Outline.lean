import ApiReview.Yaml.Token

/-!
Outlines of documents: their scalars, sequences and mappings, each with the kind that is stated for
it. The parts are numbered in the order in which they start, and sequences and mappings hold
numbers, so that a reference to a named part is that part's number. A part may be referred to from
inside itself.
-/

set_option autoImplicit false

namespace ApiReview.Yaml

/-- A part of a document: a scalar, or the numbers of further parts. -/
inductive Item
  | scalar (tag : Tag) (plain : Bool) (text : String)
  | sequence (tag : Tag) (items : List Nat)
  | mapping (tag : Tag) (entries : List (Nat × Nat))

/-- The part in place of one that is left out. -/
def Item.leftOut : Item := .scalar .unstated true ""

/-- The parts of a document by number, and the number of the whole. -/
structure Outline where
  items : Array Item
  root : Nat

namespace Outline

def item (outline : Outline) (number : Nat) : Item := outline.items.getD number .leftOut

def set (outline : Outline) (number : Nat) (item : Item) : Outline :=
  { outline with items := outline.items.setIfInBounds number item }

/-- What names of kinds start with in full, by the handles that every document knows. -/
def usualHandles : List (String × String) :=
  [("!", "!"), ("!!", String.ofList standardStart)]

/-- How deep parts may lie inside one another. -/
def deepest : Nat := 485

/-- The tokens ahead, the parts so far and the names that were given to parts. -/
structure Supply where
  tokens : List Token
  items : Array Item := #[]
  names : List (String × Nat) := []
  handles : List (String × String) := usualHandles
  /-- How many parts are open. -/
  depth : Nat := 0

namespace Supply

def skip (supply : Supply) (count : Nat) : Supply :=
  { supply with tokens := supply.tokens.drop count }

def isAt (supply : Supply) (tokens : List Token) : Bool := supply.tokens.head?.any tokens.contains

/-- Why there is no way on: the text could not be cut into tokens here, or another token has to be
ahead. -/
def failure (supply : Supply) : Failure :=
  match supply.tokens with
  | .broken failure :: _ => failure
  | _ => .malformed

def expect (supply : Supply) (token : Token) : Except Failure Supply :=
  if supply.isAt [token] then .ok (supply.skip 1) else .error supply.failure

/-- The supply with a part more, under a name if one is given, and the part's number. A name is
given once. -/
def add (supply : Supply) (name? : Option String) (item : Item) : Except Failure (Nat × Supply) :=
  let number := supply.items.size
  let supply := { supply with items := supply.items.push item }
  match name? with
  | none => .ok (number, supply)
  | some name =>
    if (supply.names.lookup name).isSome then .error .malformed
    else .ok (number, { supply with names := (name, number) :: supply.names })

/-- The supply inside a part more, and the part's number. -/
def enter (supply : Supply) (name? : Option String) (item : Item) :
    Except Failure (Nat × Supply) :=
  if deepest ≤ supply.depth then .error (.fault .endless)
  else { supply with depth := supply.depth + 1 }.add name? item

/-- The supply behind a part, which gets its content, and the part's number. -/
def finish (supply : Supply) (number : Nat) (item : Item) : Nat × Supply :=
  (number, { supply with
    items := supply.items.setIfInBounds number item
    depth := supply.depth - 1 })

def tagOf (supply : Supply) : Option (Option String × String) → Except Failure Tag
  | none => .ok .unstated
  | some (none, name) => .ok (.ofName name)
  | some (some handle, name) =>
    match supply.handles.lookup handle with
    | some start => .ok (.ofName (start ++ name))
    | none => .error .malformed

end Supply

/-- The name and the name of the kind in front of a part, and how many tokens state them. -/
def properties : List Token → Option String × Option (Option String × String) × Nat
  | .anchor name :: .tag handle? kind :: _ => (some name, some (handle?, kind), 2)
  | .tag handle? kind :: .anchor name :: _ => (some name, some (handle?, kind), 2)
  | .anchor name :: _ => (some name, none, 1)
  | .tag handle? kind :: _ => (none, some (handle?, kind), 1)
  | _ => (none, none, 0)

/-- A part of which there is only a name or a kind. -/
def bare (name? : Option String) (tag : Tag) (count : Nat) (supply : Supply) :
    Except Failure (Nat × Supply) :=
  if count = 0 then .error supply.failure else supply.add name? (.scalar tag true "")

mutual

/-- Reads a part. Only in a block may it be one, and only below a key may it be a sequence that is
not indented. -/
def part (inBlock belowKey : Bool) : Nat → Supply → Except Failure (Nat × Supply)
  | 0, _ => .error .malformed
  | fuel + 1, supply =>
    match supply.tokens with
    | .reference name :: _ =>
      match supply.names.lookup name with
      | some number => .ok (number, supply.skip 1)
      | none => .error .malformed
    | tokens => do
      let (name?, stated?, count) := properties tokens
      let tag ← supply.tagOf stated?
      let supply := supply.skip count
      match supply.tokens with
      | .scalar plain text :: _ => (supply.skip 1).add name? (.scalar tag plain text)
      -- The items of a sequence may start in the column of the key above them.
      | .blockEntry :: _ =>
        if belowKey then do
          let (number, supply) ← supply.enter name? (.sequence tag [])
          let (items, supply) ← flatItems fuel supply
          .ok (supply.finish number (.sequence tag items))
        else bare name? tag count supply
      | .flowSequence :: _ => do
        let (number, supply) ← (supply.skip 1).enter name? (.sequence tag [])
        let (items, supply) ← flowItems true fuel supply
        .ok (supply.finish number (.sequence tag items))
      | .flowMapping :: _ => do
        let (number, supply) ← (supply.skip 1).enter name? (.mapping tag [])
        let (entries, supply) ← flowEntries true fuel supply
        .ok (supply.finish number (.mapping tag entries))
      | .blockSequence :: _ =>
        if inBlock then do
          let (number, supply) ← (supply.skip 1).enter name? (.sequence tag [])
          let (items, supply) ← blockItems fuel supply
          .ok (supply.finish number (.sequence tag items))
        else bare name? tag count supply
      | .blockMapping :: _ =>
        if inBlock then do
          let (number, supply) ← (supply.skip 1).enter name? (.mapping tag [])
          let (entries, supply) ← blockEntries fuel supply
          .ok (supply.finish number (.mapping tag entries))
        else bare name? tag count supply
      | _ => bare name? tag count supply

/-- Reads a part unless one of some tokens is ahead, in front of which it is left out. -/
def partUnless (stops : List Token) (inBlock belowKey : Bool) :
    Nat → Supply → Except Failure (Nat × Supply)
  | 0, _ => .error .malformed
  | fuel + 1, supply =>
    if supply.isAt stops then supply.add none .leftOut else part inBlock belowKey fuel supply

def blockItems : Nat → Supply → Except Failure (List Nat × Supply)
  | 0, _ => .error .malformed
  | fuel + 1, supply =>
    if supply.isAt [.blockEntry] then do
      let (item, supply) ← partUnless [.blockEntry, .blockEnd] true false fuel (supply.skip 1)
      let (items, supply) ← blockItems fuel supply
      .ok (item :: items, supply)
    else do .ok ([], ← supply.expect .blockEnd)

/-- Reads the items of a sequence that is not indented. -/
def flatItems : Nat → Supply → Except Failure (List Nat × Supply)
  | 0, _ => .error .malformed
  | fuel + 1, supply =>
    if supply.isAt [.blockEntry] then do
      let (item, supply) ←
        partUnless [.blockEntry, .key, .value, .blockEnd] true false fuel (supply.skip 1)
      let (items, supply) ← flatItems fuel supply
      .ok (item :: items, supply)
    else .ok ([], supply)

/-- Reads a value if one is ahead; without one it is left out. -/
def valueUnless (stops : List Token) (inBlock belowKey : Bool) :
    Nat → Supply → Except Failure (Nat × Supply)
  | 0, _ => .error .malformed
  | fuel + 1, supply =>
    if supply.isAt [.value] then partUnless stops inBlock belowKey fuel (supply.skip 1)
    else supply.add none .leftOut

def blockEntries : Nat → Supply → Except Failure (List (Nat × Nat) × Supply)
  | 0, _ => .error .malformed
  | fuel + 1, supply =>
    if supply.isAt [.key] then do
      let stops : List Token := [.key, .value, .blockEnd]
      let (key, supply) ← partUnless stops true true fuel (supply.skip 1)
      let (value, supply) ← valueUnless stops true true fuel supply
      let (entries, supply) ← blockEntries fuel supply
      .ok ((key, value) :: entries, supply)
    else do .ok ([], ← supply.expect .blockEnd)

/-- Reads an entry of a flow collection behind the mark of its key. -/
def flowEntry (stops : List Token) : Nat → Supply → Except Failure ((Nat × Nat) × Supply)
  | 0, _ => .error .malformed
  | fuel + 1, supply => do
    let (key, supply) ← partUnless (.value :: stops) false false fuel supply
    let (value, supply) ← valueUnless stops false false fuel supply
    .ok ((key, value), supply)

/-- Reads the items of a flow sequence up to its end. An item may be a single entry of a
mapping. -/
def flowItems (isFirst : Bool) : Nat → Supply → Except Failure (List Nat × Supply)
  | 0, _ => .error .malformed
  | fuel + 1, supply => do
    if supply.isAt [.flowSequenceEnd] then .ok ([], supply.skip 1)
    else
      -- The end is looked for again: a comma may follow the last item.
      let supply ← if isFirst then .ok supply else supply.expect .flowEntry
      if supply.isAt [.flowSequenceEnd] then .ok ([], supply.skip 1)
      else
        let (item, supply) ←
          if supply.isAt [.key] then do
            let (number, supply) ← (supply.skip 1).enter none (.mapping .unstated [])
            let (entry, supply) ← flowEntry [.flowEntry, .flowSequenceEnd] fuel supply
            .ok (supply.finish number (.mapping .unstated [entry]))
          else part false false fuel supply
        let (items, supply) ← flowItems false fuel supply
        .ok (item :: items, supply)

/-- Reads the entries of a flow mapping up to its end. An entry may be a key alone. -/
def flowEntries (isFirst : Bool) : Nat → Supply → Except Failure (List (Nat × Nat) × Supply)
  | 0, _ => .error .malformed
  | fuel + 1, supply => do
    if supply.isAt [.flowMappingEnd] then .ok ([], supply.skip 1)
    else
      let supply ← if isFirst then .ok supply else supply.expect .flowEntry
      if supply.isAt [.flowMappingEnd] then .ok ([], supply.skip 1)
      else
        let (entry, supply) ←
          if supply.isAt [.key] then
            flowEntry [.flowEntry, .flowMappingEnd] fuel (supply.skip 1)
          else do
            let (key, supply) ← part false false fuel supply
            let (value, supply) ← supply.add none .leftOut
            .ok ((key, value), supply)
        let (entries, supply) ← flowEntries false fuel supply
        .ok (entry :: entries, supply)

end

def directivesOf : List Token → List Directive
  | .directive directive :: rest => directive :: directivesOf rest
  | _ => []

/-- The handles that a document knows behind some directives. A version is given once and starts
with a one, and no handle is given twice. -/
def handlesOf (directives : List Directive) : Except Failure (List (String × String)) :=
  let majors := directives.filterMap Directive.major?
  let handles := directives.filterMap Directive.handle?
  if majors.length ≤ 1 && majors.all (· == 1) && (handles.map (·.1)).Nodup then
    .ok (handles ++ usualHandles)
  else .error .malformed

/-- Whether directives or the mark behind them are ahead. -/
def isAtStart (supply : Supply) : Bool :=
  supply.isAt [.documentStart] || !(directivesOf supply.tokens).isEmpty

/-- The supply behind the start of a document, and whether the start is marked. -/
def atContent (supply : Supply) : Except Failure (Supply × Bool) :=
  if isAtStart supply then do
    let directives := directivesOf supply.tokens
    let supply := { supply.skip directives.length with handles := ← handlesOf directives }
    .ok (← supply.expect .documentStart, true)
  else .ok (supply, false)

def behindEnds (supply : Supply) : Supply :=
  supply.skip (supply.tokens.takeWhile (· == .documentEnd)).length

/-- Whether no content is ahead. -/
def isBetweenDocuments (supply : Supply) : Bool :=
  supply.tokens.isEmpty || isAtStart supply || supply.isAt [.documentEnd]

/-- Reads the one document that tokens write; an empty one is left out. -/
def ofTokens (tokens : List Token) : Except Failure Outline := do
  let (supply, isMarked) ← atContent { tokens }
  let (root, supply) ←
    if tokens.isEmpty || isMarked && isBetweenDocuments supply then supply.add none .leftOut
    else part true false (6 * tokens.length + 6) supply
  let behind := behindEnds supply
  if behind.tokens.isEmpty then .ok ⟨supply.items, root⟩ else .error behind.failure

end Outline

end ApiReview.Yaml
