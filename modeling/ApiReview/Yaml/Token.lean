import ApiReview.Yaml.Failure

/-!
The tokens of a document: marks of its structure, and the names and scalars between them.
-/

set_option autoImplicit false

namespace ApiReview.Yaml

/-- What a document says about the kind of a value. -/
inductive Tag
  /-- The kind follows from the value. -/
  | unstated
  /-- The kind follows from the value, read as if it were plain. -/
  | asPlain
  /-- A kind of the standard, by its name. -/
  | standard (name : String)
  /-- Any other kind. -/
  | foreign
  deriving DecidableEq, Repr

def standardStart : List Char := "tag:yaml.org,2002:".toList

def Tag.ofName (name : String) : Tag :=
  let chars := name.toList
  if name == "!" then .asPlain
  else if standardStart.isPrefixOf chars then
    .standard (String.ofList (chars.drop standardStart.length))
  else .foreign

/-- What is said in front of a document. -/
inductive Directive
  /-- The version of the format, of which the first part counts. -/
  | version (major : Nat)
  /-- What the names of kinds that are written with a handle start with in full. -/
  | handle (name start : String)
  /-- Anything else, which has no effect. -/
  | other
  deriving DecidableEq, Repr

def Directive.major? : Directive → Option Nat
  | .version major => some major
  | _ => none

def Directive.handle? : Directive → Option (String × String)
  | .handle name start => some (name, start)
  | _ => none

/-- A token of a document. -/
inductive Token
  | directive (directive : Directive)
  | documentStart
  | documentEnd
  | blockSequence
  | blockMapping
  | blockEnd
  | flowSequence
  | flowSequenceEnd
  | flowMapping
  | flowMappingEnd
  | flowEntry
  | blockEntry
  | key
  | value
  | reference (name : String)
  | anchor (name : String)
  /-- The name of a kind: in full, or behind a handle. -/
  | tag (handle? : Option String) (name : String)
  | scalar (plain : Bool) (text : String)
  /-- The place behind which the text cannot be cut into tokens. -/
  | broken (failure : Failure)
  deriving DecidableEq, Repr

end ApiReview.Yaml
