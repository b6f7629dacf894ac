import ApiReview.Node.Graph
import ApiReview.Yaml.Outline
import ApiReview.Yaml.Scalar
import ApiReview.Yaml.Token.Lexer

/-!
Reading documents. Every part of a document becomes one cell of a graph, wherever it is referred to.
The parts are taken in order of their levels: the whole first, then its own parts, then theirs. A
key that is given twice keeps its first place and takes the last value.
-/

set_option autoImplicit false

namespace ApiReview.Yaml

open ApiReview.Text

/-- Whether a part, as a key, takes over the members of other mappings. -/
def Item.isMergeKey : Item → Bool
  | .scalar .unstated plain text => plain && Plain.kind text == .merge
  | .scalar .asPlain _ text => Plain.kind text == .merge
  | .scalar (.standard name) _ _ => name == "merge"
  | _ => false

def Item.entries? : Item → Option (List (Nat × Nat))
  | .mapping _ entries => some entries
  | _ => none

namespace Outline

/-- The outline with entries in front of those of a mapping. -/
def putInFront (outline : Outline) (number : Nat) (taken : List (Nat × Nat)) : Outline :=
  match outline.item number with
  | .mapping tag entries => outline.set number (.mapping tag (taken ++ entries))
  | _ => outline

/-- The mappings whose entries a merge key takes over: one, or several. -/
def mergeSources (outline : Outline) (number : Nat) : Except Failure (List Nat) :=
  let isMapping (number : Nat) : Bool := (outline.item number).entries?.isSome
  match outline.item number with
  | .mapping .. => .ok [number]
  | .sequence _ items => if items.all isMapping then .ok items else .error .malformed
  | .scalar .. => .error .malformed

/-- The outline in which the merge keys of a mapping have taken effect, and with them those of the
mappings that they take over from, of which the last comes first. Each merge key is gone before the
next is looked at, so a mapping may even take over from itself. -/
def merge : Nat → Nat → Outline → Except Failure Outline
  | 0, _, _ => .error .malformed
  | limit + 1, number, outline =>
    match outline.item number with
    | .mapping tag entries =>
      match entries.findIdx? fun (key, _) => (outline.item key).isMergeKey with
      | none => .ok outline
      | some index => do
        let sources ← outline.mergeSources ((entries[index]?.map (·.2)).getD 0)
        let outline := outline.set number (.mapping tag (entries.eraseIdx index))
        let outline ← sources.foldlM (fun outline source => merge limit source outline) outline
        let taken := sources.reverse.flatMap fun source =>
          ((outline.item source).entries?).getD []
        .ok ((← merge limit number outline).putInFront number taken)
    | _ => .ok outline

/-- The outline in which the merge keys of a mapping have taken effect. -/
def merged (outline : Outline) (number : Nat) : Except Failure Outline :=
  merge (outline.items.size + 2) number outline

end Outline

/-- The scalar that a plain text means. The mark of a stand-in means its own text as a key. -/
def plainValue (isKey : Bool) (text : String) : Except Failure Node :=
  match Plain.kind text with
  | .text => .ok (.str text)
  | .null => .ok .null
  | .flag value => .ok (.bool value)
  | .whole => ((Plain.wholeValue text).mapError .fault).map .int
  | .real => ((Plain.realValue text).mapError .fault).map .float
  | .moment => ((Plain.momentValue text).mapError .fault).map .time
  | .standIn => if isKey then .ok (.str text) else .error .malformed
  | .merge | .reserved => .error .malformed

def statedValue (name text : String) : Except Failure Node :=
  match name with
  | "str" => .ok (.str text)
  | "null" => .ok .null
  | "int" => ((Plain.wholeValue text).mapError .fault).map .int
  | "float" => ((Plain.realValue text).mapError .fault).map .float
  | "timestamp" => ((Plain.momentValue text).mapError .fault).map .time
  | "bool" =>
    match Plain.flagWords.lookup (lower text) with
    | some value => .ok (.bool value)
    | none => .error (.fault .missingMember)
  | _ => .error .malformed

def scalarValue (isKey : Bool) (tag : Tag) (plain : Bool) (text : String) : Except Failure Node :=
  match tag with
  | .unstated => if plain then plainValue isKey text else .ok (.str text)
  | .asPlain => plainValue isKey text
  | .standard name => statedValue name text
  | .foreign => .error .malformed

def Tag.allows (tag : Tag) (name : String) : Bool :=
  tag == .unstated || tag == .asPlain || tag == .standard name

/-- The key that a part stands for; collections are no keys. -/
def keyValue : Item → Except Failure Key
  | .scalar tag plain text => do
    match ← scalarValue true tag plain text with
    | .str name => .ok (.str name)
    | .int number => .ok (.int number)
    | .float number => .ok (.float number)
    | .bool flag => .ok (.bool flag)
    | .time moment => .ok (.time moment)
    | _ => .ok .null
  | _ => .error .malformed

/-- A graph that is made from an outline. -/
structure Growth where
  outline : Outline
  graph : Graph := {}
  /-- The cells of parts, by the number of the part. -/
  cells : Array (Option Nat) := Array.replicate outline.items.size none
  /-- The parts with cells that are still empty. -/
  waiting : List Nat := []

namespace Growth

/-- The growth with a cell for a part, and the cell's number. -/
def start (growth : Growth) (number : Nat) (cell : Shape Nat) : Growth × Nat :=
  let place := growth.graph.cells.size
  ({ growth with
    graph := (growth.graph.push cell).1
    cells := growth.cells.setIfInBounds number (some place) }, place)

/-- The growth with an empty cell for a part that waits to be filled. -/
def startEmpty (growth : Growth) (number : Nat) (cell : Shape Nat) : Growth × Nat :=
  let (growth, place) := growth.start number cell
  ({ growth with waiting := growth.waiting ++ [number] }, place)

/-- The cell of a part, which is made when the part is met first. -/
def cellOf (growth : Growth) (number : Nat) : Except Failure (Growth × Nat) :=
  match growth.cells.getD number none with
  | some place => .ok (growth, place)
  | none =>
    match growth.outline.item number with
    | .scalar tag plain text => do
      .ok (growth.start number (.scalar (← scalarValue false tag plain text)))
    | .sequence tag _ =>
      if tag.allows "seq" then .ok (growth.startEmpty number (.list [])) else .error .malformed
    | .mapping tag _ =>
      if tag.allows "map" then .ok (growth.startEmpty number (.object [])) else .error .malformed

def itemCells (growth : Growth) : List Nat → Except Failure (Growth × List Nat)
  | [] => .ok (growth, [])
  | item :: rest => do
    let (growth, place) ← growth.cellOf item
    let (growth, places) ← growth.itemCells rest
    .ok (growth, place :: places)

/-- Members with those added that entries stand for, with the cells of their values. -/
def memberCells (growth : Growth) (members : List (Key × Nat)) :
    List (Nat × Nat) → Except Failure (Growth × List (Key × Nat))
  | [] => .ok (growth, members)
  | (key, value) :: rest => do
    let key ← keyValue (growth.outline.item key)
    let (growth, place) ← growth.cellOf value
    growth.memberCells (Members.define key place members) rest

def fill (growth : Growth) (number : Nat) : Except Failure Growth := do
  let place := (growth.cells.getD number none).getD 0
  let growth := { growth with outline := ← growth.outline.merged number }
  match growth.outline.item number with
  | .scalar .. => .ok growth
  | .sequence _ items =>
    let (growth, places) ← growth.itemCells items
    .ok { growth with graph := growth.graph.set place (.list places) }
  | .mapping _ entries =>
    let (growth, members) ← growth.memberCells [] entries
    .ok { growth with graph := growth.graph.set place (.object members) }

/-- Fills the cells that wait, with a limit to their number. -/
def finish : Nat → Growth → Except Failure Growth
  | 0, growth => .ok growth
  | limit + 1, growth =>
    match growth.waiting with
    | [] => .ok growth
    | number :: waiting => do finish limit (← { growth with waiting }.fill number)

end Growth

/-- The graph that an outline stands for. Each part waits at most once. -/
def Outline.toGraph (outline : Outline) : Except Failure Graph := do
  let (growth, root) ← Growth.cellOf { outline } outline.root
  let growth ← growth.finish outline.items.size
  .ok { growth.graph with root }

def isAllowed (c : Char) : Bool :=
  c == '\t' || c == '\n' || ' ' ≤ c && c ≤ '~' || c.toNat == 0x85
    || 0xA0 ≤ c.toNat && c.toNat ≤ 0xD7FF || 0xE000 ≤ c.toNat && c.toNat ≤ 0xFFFD
    || 0x10000 ≤ c.toNat

/-- A text in which every line ends in the same way. -/
def withPlainBreaks : List Char → List Char
  | [] => []
  | '\r' :: '\n' :: rest => '\n' :: withPlainBreaks rest
  | c :: rest => (if c == '\r' || c.toNat == 0x85 then '\n' else c) :: withPlainBreaks rest

def read (text : String) : Except Failure Graph := do
  let chars := withPlainBreaks text.toList
  if !chars.all isAllowed then .error .malformed
  else (← Outline.ofTokens (Token.ofText chars)).toGraph

end ApiReview.Yaml
