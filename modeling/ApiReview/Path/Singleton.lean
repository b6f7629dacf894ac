import ApiReview.Node.Access
import ApiReview.Path.Basic

/-!
Singletons: paths that address one resource rather than a collection, inferred from all declared
paths together. A declared path without parameters is a singleton unless an item of it is declared
too; a path that is only the beginning of declared ones is a singleton unless anything addresses
its items.
-/

set_option autoImplicit false

namespace ApiReview

open ApiReview.Text

namespace Path

/-- What a path has behind a base path and the opening brace of an item placeholder. -/
def behindItemBrace? (base path : List Char) : Option (List Char) :=
  let opening := base ++ ['/', '\x7b']
  if opening.isPrefixOf path then some (path.drop opening.length) else none

/-- Whether a placeholder text without slashes fills the rest up to a closing brace at its end. -/
def isPlaceholderRest (rest : List Char) : Bool :=
  2 ≤ rest.length && rest.getLast? == some '\x7d' && !rest.contains '/'

def isItem (base path : List Char) : Bool :=
  (behindItemBrace? base path).any (atLineEnd isPlaceholderRest)

def addressesItem (base path : List Char) : Bool :=
  (behindItemBrace? base path).any fun rest =>
    -- The name between the braces is not empty, so the closing one is no first character.
    ((rest.takeWhile (· != '/')).drop 1).contains '\x7d'

/-- Declared paths that address a single resource. -/
def declaredSingletons (paths : List String) : List String :=
  paths.filter fun path =>
    !hasPlaceholder path && path != "/"
      && !paths.any fun other => isItem path.toList other.toList

/-- The proper beginnings of a path that end in a segment, but for version segments. -/
def beginnings (path : String) : List String :=
  let segments := segments path
  ((List.range segments.length).drop 1).filterMap fun count =>
    if segments[count - 1]?.any Segment.isVersion then none
    else some (ofSegments (segments.take count))

/-- Undeclared beginnings of declared paths that address a single resource. -/
def undeclaredSingletons (paths : List String) : List String :=
  (paths.filter fun path => !hasPlaceholder path).flatMap fun path =>
    (beginnings path).filter fun beginning =>
      !paths.contains beginning
        && !paths.any fun other => addressesItem beginning.toList other.toList

/-- The paths that address a single resource, each once. -/
def singletons (paths : List String) : List String :=
  (declaredSingletons paths ++ undeclaredSingletons paths).eraseDups

def isUnderSingleton (singletons : List String) (path : String) : Bool :=
  singletons.contains path || singletons.any fun singleton => startsWith path (singleton ++ "/")

end Path

/-- The names of the members, if all keys are names. -/
def Members.names? (members : Members) : Option (List String) :=
  members.mapM fun (key, _) =>
    match key with
    | .str name => some name
    | _ => none

def Node.singletons (spec : Node) : Except Fault (List String) := do
  let members ← spec.asObject
  let paths ← (Node.optional (Members.get? members "paths")).asObject
  match Members.names? paths with
  | some names => .ok (Path.singletons names)
  | none => .error .wrongKind

end ApiReview
