import ApiReview.Files.Tree
import ApiReview.Json.Writable
import ApiReview.Node.Access
import ApiReview.Node.Display
import ApiReview.Yaml.Reader
import ApiReview.Yaml.Writer

/-!
Files with interface documents. Both formats are read alike, as JSON text is YAML text too; a
document is written as JSON under a name that says so, and as YAML under any other.
-/

set_option autoImplicit false

namespace ApiReview

open ApiReview.Text

/-- The format of a document file. -/
inductive FileFormat
  | json
  | yaml
  deriving DecidableEq, Repr

def FileFormat.name : FileFormat → String
  | .json => "json"
  | .yaml => "yaml"

/-- Why a file does not hold an interface document. -/
inductive SpecFileError
  | unreadable (file : FileName)
  | malformed (file : FileName)
  | noObject (file : FileName)
  | noVersion (file : FileName)
  deriving DecidableEq, Repr

def SpecFileError.message : SpecFileError → String
  | .unreadable file => "Cannot read " ++ file.text
  | .malformed file => file.text ++ " is not valid YAML or JSON"
  | .noObject file => file.text ++ " does not contain a mapping"
  | .noVersion file => file.text ++ " is not an OpenAPI document (no 'openapi' key)"

/-- Why a file has not been loaded: it is refused, or it has a shape that loading has no answer
to. -/
inductive LoadError (Refusal : Type)
  | refused (refusal : Refusal)
  | fault (fault : Fault)
  deriving DecidableEq, Repr

/-- The text of a file; one that is missing or a directory is refused. -/
def FileTree.readFor {Refusal : Type} (tree : FileTree) (file : FileName) (refusal : Refusal) :
    Except (LoadError Refusal) String :=
  match tree.read file with
  | .ok content => .ok content
  | .error .undecodable => .error (.fault .undecodable)
  | .error .badValue => .error (.fault .badValue)
  | .error _ => .error (.refused refusal)

/-- The document that a text writes; a malformed text is refused. -/
def Yaml.readFor {Refusal : Type} (text : String) (refusal : Refusal) :
    Except (LoadError Refusal) Graph :=
  match Yaml.read text with
  | .ok document => .ok document
  | .error .malformed => .error (.refused refusal)
  | .error (.fault fault) => .error (.fault fault)

namespace SpecFile

/-- The format of a file: by the ending of its name, else by whether its text starts as an
object. -/
def format (tree : FileTree) (file : FileName) : Except Fault FileFormat := do
  if file.endsIn [".json"] then .ok .json
  else if file.endsIn [".yaml", ".yml"] then .ok .yaml
  else
    let content ← tree.read file
    let start := trimStart Letter.isBlank content.toList
    .ok (if start.head? == some '\x7b' then .json else .yaml)

/-- The text of a response code. A number with too many digits has none. -/
def codeText (code : Key) : Except Fault String :=
  match code with
  | .int number => if Integer.isUnwritable number then .error .badValue else .ok code.display
  | _ => .ok code.display

/-- Responses by codes that are all texts. A code that is then given twice keeps its first place and
takes the last value. -/
def withTextCodes {Response : Type} (responses : List (Key × Response)) :
    Except Fault (List (Key × Response)) :=
  responses.foldlM (fun done (code, response) => do
    .ok (Members.put (.str (← codeText code)) response done)) []

/-- The document in which an operation has response codes that are all texts. The operation gets
responses of its own. -/
def normalizeOperation (document : Graph) (number : Nat) : Except Fault Graph :=
  match document.cell number with
  | .object operation =>
    match (Members.get? operation "responses").map document.cell with
    | some (.object responses) => do
      let (document, renamed) := document.push (.object (← withTextCodes responses))
      .ok (document.set number (.object (Members.put (.str "responses") renamed operation)))
    | _ => .ok document
  | _ => .ok document

def valueAt? (document : Graph) (number position : Nat) : Option Nat :=
  match document.cell number with
  | .object members => (members[position]?).map (·.2)
  | _ => none

/-- The document after a step for the value at a position in an object. -/
def stepAt (step : Graph → Nat → Except Fault Graph) (number : Nat) (document : Graph)
    (position : Nat) : Except Fault Graph :=
  match valueAt? document number position with
  | some value => step document value
  | none => .ok document

/-- The document after a step for each value of an object, in order. Where a step gives the object
itself another value under a key, the steps that follow meet the new one. -/
def stepThrough (step : Graph → Nat → Except Fault Graph) (document : Graph) (number : Nat) :
    Except Fault Graph :=
  match document.cell number with
  | .object members => (List.range members.length).foldlM (stepAt step number) document
  | _ => .ok document

/-- The document in which the operations of a path item have response codes that are all texts. -/
def normalizePathItem : Graph → Nat → Except Fault Graph := stepThrough normalizeOperation

/-- The document with response codes that are all texts. -/
def normalize (document : Graph) (members : List (Key × Nat)) : Except Fault Graph :=
  match Members.get? members "paths" with
  | some paths =>
    match document.cell paths with
    | .object _ => stepThrough normalizePathItem document paths
    | .scalar value => if value.isFilled then .error .notAnObject else .ok document
    | .list items => if items.isEmpty then .ok document else .error .notAnObject
  | none => .ok document

/-- Whether a document says which version of the interface format it keeps. -/
def hasVersion {Value : Type} (document : List (Key × Value)) : Bool :=
  Members.has document "openapi" || Members.has document "swagger"

/-- Loads the interface document of a file. -/
def load (tree : FileTree) (file : FileName) : Except (LoadError SpecFileError) Graph := do
  let content ← tree.readFor file (.unreadable file)
  let document ← Yaml.readFor content (SpecFileError.malformed file)
  match document.cell document.root with
  | .object members =>
    if hasVersion members then (normalize document members).mapError .fault
    else .error (.refused (.noVersion file))
  | _ => .error (.refused (.noObject file))

def textFor (file : FileName) (document : Graph) : Except Fault String :=
  if file.endsIn [".json"] then (Json.write Json.indented document).map (· ++ "\n")
  else Yaml.write document

/-- The text of a document that is written to a file with a name. -/
def dump (tree : FileTree) (file : FileName) (document : Graph) : Except Fault String := do
  let text ← textFor file document
  match tree.obstacle? file with
  | some fault => .error fault
  | none => .ok text

end SpecFile

end ApiReview
