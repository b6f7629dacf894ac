import ApiReview.Fault
import ApiReview.Files.Name

/-!
The files that a program sees. A directory is there when it is listed or something in it is.
-/

set_option autoImplicit false

namespace ApiReview

/-- What stands under a name. -/
inductive FileEntry
  | text (content : String)
  /-- A file whose bytes are no text. -/
  | undecodable
  | directory
  deriving DecidableEq, Repr

def FileEntry.ofBytes (bytes : ByteArray) : FileEntry :=
  match String.fromUTF8? bytes with
  | some content => .text content
  | none => .undecodable

/-- Files and directories by their resolved names. -/
structure FileTree where
  entries : List (FileName × FileEntry) := []

namespace FileTree

/-- The tree of entries with names as they are written. -/
def ofEntries (entries : List (String × FileEntry)) : FileTree :=
  ⟨entries.map fun (name, entry) => ((FileName.ofText name).resolved, entry)⟩

def isFile (tree : FileTree) (name : FileName) : Bool :=
  match tree.entries.lookup name with
  | some .directory | none => false
  | some _ => true

def isDirectory (tree : FileTree) (name : FileName) : Bool :=
  name.isAbove || tree.entries.lookup name == some .directory
    || tree.entries.any fun (other, _) => other.ancestors.contains name

/-- The resolved name behind some parts, each of which leads on from a directory: to something in
it, which need not be there when nothing follows, or to the directory above. -/
def follow (tree : FileTree) (name : FileName) : List String → Except Fault FileName
  | [] => .ok name
  | part :: rest =>
    if tree.isDirectory name then tree.follow (name.below part).resolved rest
    else if tree.isFile name then .error .notDirectory
    else .error .noSuchFile

def entry (tree : FileTree) (name : FileName) : Except Fault FileEntry := do
  if !name.isPossible then .error .badValue
  else
    let name ← tree.follow ⟨name.root, []⟩ name.parts
    match tree.entries.lookup name with
    | some entry => .ok entry
    | none => if tree.isDirectory name then .ok .directory else .error .noSuchFile

def read (tree : FileTree) (name : FileName) : Except Fault String := do
  match ← tree.entry name with
  | .text content => .ok content
  | .undecodable => .error .undecodable
  | .directory => .error .isDirectory

def hasFile (tree : FileTree) (name : FileName) : Except Fault Bool :=
  match tree.entry name with
  | .error .badValue => .error .badValue
  | .ok .directory | .error _ => .ok false
  | .ok _ => .ok true

def hasFiles (tree : FileTree) : List FileName → Except Fault Bool
  | [] => .ok true
  | name :: rest => do if ← tree.hasFile name then tree.hasFiles rest else .ok false

/-- What keeps a file from being written under a name. Directories on the way are made if need be,
but not where there are files. -/
def obstacle? (tree : FileTree) (name : FileName) : Option Fault :=
  if !name.isPossible then some .badValue
  else if name.ancestors.any fun above => tree.isFile above.resolved then some .notDirectory
  else if tree.isDirectory name.resolved then some .isDirectory
  else none

/-- Whether a file that is written under a name is a new one in the current directory. -/
def isNew (tree : FileTree) (name : FileName) : Bool :=
  name.resolved.isInside && !tree.isFile name.resolved

end FileTree

end ApiReview
