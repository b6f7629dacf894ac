import ApiReview.Path.Words
import ApiReview.Word.Vocabulary

/-!
The structure of path strings. Positions count the non-empty segments of a path, parameters
included, so that a rename never touches a sibling that merely shares a part of its text.
-/

set_option autoImplicit false

namespace ApiReview

open ApiReview.Text

namespace Segment

def isParameter (segment : String) : Bool := startsWith segment "\x7b"

def hasMethodSuffix (segment : String) : Bool := hasChar segment ':'

/-- A version number such as `v1`, or `v1.2`. -/
def isVersionNumber (segment : List Char) : Bool :=
  match segment with
  | 'v' :: rest =>
    let major := rest.takeWhile Letter.isDecimal
    !major.isEmpty &&
      match rest.dropWhile Letter.isDecimal with
      | [] => true
      | '.' :: minor => !minor.isEmpty && minor.all Letter.isDecimal
      | _ => false
  | _ => false

/-- Whether a segment is a version or the root of an interface rather than a resource. -/
def isVersion (segment : String) : Bool :=
  let small := lowerChars segment.toList
  atLineEnd isVersionNumber small || atLineEnd (· == "api".toList) small

end Segment

namespace Path

def segments (path : String) : List String := (splitOn '/' path).filter fun s => s != ""

def ofSegments (segments : List String) : String := "/" ++ String.intercalate "/" segments

/-- The segments that name resources: no parameters and no method suffixes. -/
def resources (path : String) : List String :=
  (segments path).filter fun s => !Segment.isParameter s && !Segment.hasMethodSuffix s

def parent (path : String) (position : Nat) : String := ofSegments ((segments path).take position)

/-- The path in front of a position that counts from the end when it is negative. -/
def parentAt (path : String) (position : Int) : String :=
  let size := Int.ofNat (segments path).length
  parent path (if position < 0 then size + position else position).toNat

/-- Sets the segment at a position that counts from the end when it is negative. -/
def setSegment? (segments : List String) (position : Int) (value : String) :
    Option (List String) :=
  let size := Int.ofNat segments.length
  let index := if position < 0 then size + position else position
  if 0 ≤ index ∧ index < size then some (segments.set index.toNat value) else none

/-- Replacements with each position once: where it stands first, with the value it has last. -/
def latest (replacements : List (Int × String)) : List (Int × String) :=
  let positions := (replacements.map (·.1)).eraseDups
  positions.filterMap fun position =>
    (replacements.reverse.lookup position).map fun value => (position, value)

/-- Sets segments by position, if all positions are those of segments. -/
def replace? (path : String) (replacements : List (Int × String)) : Option String :=
  ((latest replacements).foldlM
    (fun segments (position, value) => setSegment? segments position value)
    (segments path)).map ofSegments

def replaceAt (path : String) (replacement? : Nat → Option String) : String :=
  ofSegments ((segments path).mapIdx fun position segment =>
    (replacement? position).getD segment)

def hasPlaceholder (path : String) : Bool := hasChar path '\x7b'

/-- Final segments that never denote a collection: endpoints of the system and of the caller. -/
def standardSingletonEndpoints : List String :=
  ["health", "healthz", "ready", "readyz", "live", "livez", "status", "info", "version", "config",
   "configuration", "settings", "me", "self", "current", "auth", "login", "logout", "register",
   "verify", "refresh", "token", "callback", "webhook", "webhooks", "metrics", "stats",
   "statistics", "analytics", "ping", "echo", "debug", "swagger", "openapi", "docs", "graphql"]

/-- Whether a path ends in a plural resource noun, so that it lists a collection. What might be a
singleton, an endpoint of the system or an uncountable is no collection. -/
def isCollection (vocabulary : Vocabulary) (singletonEndpoints : List String) (path : String) :
    Bool :=
  match (segments path).getLast? with
  | none => false
  | some last =>
    let word := Segment.lastWord last
    !(Segment.isParameter last || Segment.hasMethodSuffix last || Segment.isVersion last)
      && !singletonEndpoints.contains (lower last)
      && !vocabulary.isUncountable word
      && vocabulary.isNoun word
      && lower (vocabulary.singularize word) != lower word

end Path

end ApiReview
