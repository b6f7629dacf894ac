import ApiReview.Text.Basic

/-!
Names of files: directories with slashes between them, and the file's own name at the end. Empty
parts and parts that stand for the same directory do not count.
-/

set_option autoImplicit false

namespace ApiReview

open ApiReview.Text

/-- The name of a file or directory. -/
structure FileName where
  /-- The slashes in front of a name that does not start from the current directory. -/
  root : String
  parts : List String
  deriving DecidableEq, Repr

namespace FileName

/-- The slashes that a name starts from: two differ from one, and more do not. -/
def rootOf (text : String) : String :=
  match (text.toList.takeWhile (· == '/')).length with
  | 0 => ""
  | 2 => "//"
  | _ => "/"

def ofText (text : String) : FileName where
  root := rootOf text
  parts := (splitOn '/' text).filter fun part => part != "" && part != "."

/-- The name of a file that a text writes. A text that ends in a slash, or in one and a point, names
a directory. -/
def ofFileText? (text : String) : Option FileName :=
  if endsWith text "/" || endsWith text "/." then none else some (ofText text)

/-- The text of a name; the current directory is a point. -/
def text (name : FileName) : String :=
  if name.root.isEmpty && name.parts.isEmpty then "."
  else name.root ++ String.intercalate "/" name.parts

def last (name : FileName) : String := name.parts.getLastD ""

def parent (name : FileName) : FileName := ⟨name.root, name.parts.dropLast⟩

/-- The ending of a name from its last point on. A point at either end starts no ending. -/
def suffix (name : FileName) : String :=
  let backwards := name.last.toList.reverse
  let ending := backwards.takeWhile (· != '.')
  if ending.isEmpty || backwards.length ≤ ending.length + 1 then ""
  else String.ofList ('.' :: ending.reverse)

/-- Whether the ending of a name is one of some, in any letter case. -/
def endsIn (name : FileName) (suffixes : List String) : Bool :=
  suffixes.contains (lower name.suffix)

/-- Takes a part behind some parts, the last of them first. -/
def enter (parts : List String) (part : String) : List String :=
  if part != ".." then part :: parts
  else
    match parts with
    | [] => [".."]
    | ".." :: rest => ".." :: ".." :: rest
    | _ :: rest => rest

/-- Whether a file can have such a name: no name holds the character that ends names. -/
def isPossible (name : FileName) : Bool := name.parts.all fun part => !part.toList.contains '\x00'

/-- Whether a resolved name leads to somewhere in the current directory. -/
def isInside (name : FileName) : Bool :=
  name.root.isEmpty && name.parts.head?.any fun first => first != ".."

/-- The name of the current directory, or of one above it, however far. -/
def isAbove (name : FileName) : Bool := name.parts.all (· == "..")

/-- The name without ways up that follow a way down. -/
def resolved (name : FileName) : FileName :=
  ⟨name.root, (name.parts.foldl enter []).reverse⟩

def below (name : FileName) (part : String) : FileName := ⟨name.root, name.parts ++ [part]⟩

/-- The directories above a name, the nearest first. -/
def ancestors (name : FileName) : List FileName :=
  (List.range name.parts.length).reverse.map fun count => ⟨name.root, name.parts.take count⟩

end FileName

end ApiReview
