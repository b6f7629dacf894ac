import ApiReview.Path.Basic

/-!
Naming of path segments: custom methods, leading verbs, and the number of the head noun.
-/

set_option autoImplicit false

namespace ApiReview.Segment

open ApiReview.Text

/-- Verbs that read as custom methods when they stand as a segment. -/
def customMethodVerbs : List String :=
  ["validate", "verify", "check", "test", "export", "import", "download", "upload", "clear",
   "reset", "restore", "backup", "start", "stop", "pause", "resume", "enable", "disable", "toggle",
   "send", "publish", "notify", "archive", "unarchive", "approve", "reject", "cancel", "encrypt",
   "decrypt", "hash", "sync", "refresh", "reload", "train", "predict"]

/-- Verbs of the standard methods, which names of resources should not start with. -/
def methodVerbs : List String :=
  ["get", "fetch", "create", "add", "update", "edit", "delete", "remove", "list", "find", "search",
   "retrieve"]

/-- The last position at which a segment stands; the number of segments when it stands nowhere. -/
def lastPosition (segment : String) (segments : List String) : Nat :=
  let positions := (List.range segments.length).filter fun position =>
    segments[position]? == some segment
  positions.getLast?.getD segments.length

/-- Whether a segment is an action on a resource rather than a resource. An action is marked by a
colon, or by a verb in front of a hyphen, or is a bare verb behind a singleton or a parameter. -/
def isCustomMethod (segment path : String) (singletons : List String) : Bool :=
  if hasMethodSuffix segment then true
  else
    let small := lower segment
    if hasChar small '-' && customMethodVerbs.contains ((splitOn '-' small).headD "") then true
    else if customMethodVerbs.contains small then
      -- A bare verb is judged by what stands in front of its last occurrence.
      let parent := Path.parent path (lastPosition segment (Path.segments path))
      singletons.contains parent || Path.hasPlaceholder parent
    else false

/-- The verb that a segment starts with, in the case of the segment, and the text behind it. -/
def leadingVerb? (segment : List Char) : Option (List Char × List Char) :=
  methodVerbs.findSome? fun verb =>
    let size := verb.toList.length
    if (segment.take size).map Letter.fold == verb.toList then
      some (segment.take size, segment.drop size)
    else none

/-- The leading verb of a segment, if the segment ends or a new word starts behind it. Nouns such
as `listings` start with a verb that does not count. -/
def verbPrefix? (segment : List Char) : Option (List Char × List Char) :=
  (leadingVerb? segment).bind fun (verb, rest) =>
    if rest.isEmpty || rest.head?.any isSeparator || startsUpper rest then some (verb, rest)
    else none

def looksLikeVerb (vocabulary : Vocabulary) (segment : String) : Bool :=
  (verbPrefix? segment.toList).isSome
    || (vocabulary.isVerb segment && !vocabulary.isNoun segment)

/-- What is left of a segment without its leading verb; `resource` when nothing is. -/
def withoutVerb (segment : String) : String :=
  let rest :=
    match verbPrefix? segment.toList with
    | some (_, rest) => rest
    | none => segment.toList
  let noun := lower (String.ofList (trimStart isSeparator rest))
  if noun.isEmpty then "resource" else noun

/-- A segment with the last occurrence of a word replaced. -/
def replaceLast (segment word replacement : String) : String :=
  match splitLast? word.toList segment.toList with
  | some (before, behind) => String.ofList (before ++ replacement.toList ++ behind)
  | none => segment

def isSingular (vocabulary : Vocabulary) (segment : String) : Bool :=
  let word := lastWord segment
  lower (vocabulary.singularize word) == lower word

/-- A segment with its head noun inflected; separators and the other words stay. -/
def inflectHead (inflect : String → String) (segment : String) : String :=
  match (words segment).getLast? with
  | none => segment
  | some word => replaceLast segment word (inflect word)

def pluralize (vocabulary : Vocabulary) (segment : String) : String :=
  inflectHead vocabulary.pluralize segment

def singularize (vocabulary : Vocabulary) (segment : String) : String :=
  inflectHead vocabulary.singularize segment

end ApiReview.Segment
