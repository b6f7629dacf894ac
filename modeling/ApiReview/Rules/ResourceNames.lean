import ApiReview.Fix.Builder
import ApiReview.Path.Segment
import ApiReview.Rule.Basic

/-!
Rules on the names of resources in paths: collections are plural, segments are nouns, one casing
style is used throughout, and nested paths name the identifiers of parents after them.
-/

set_option autoImplicit false

namespace ApiReview.Rules

open ApiReview.Text

/-- Whether a segment of a path is no name of a resource that a rule should judge. -/
def isExempt (facts : ReviewFacts) (path segment : String) : Bool :=
  Segment.isParameter segment || Segment.hasMethodSuffix segment || Segment.isVersion segment
    || facts.settings.singletonEndpoints.contains (lower segment)
    || Segment.isCustomMethod segment path facts.singletons

/-- Whether a segment at a position of a path names a collection in the singular. Verbs are left
to the rule on verbs. -/
def isSingularCollection (facts : ReviewFacts) (path : String) (position : Nat)
    (segment : String) : Bool :=
  !isExempt facts path segment
    && !Path.isUnderSingleton facts.singletons (Path.parent path (position + 1))
    && !facts.vocabulary.isUncountable (Segment.lastWord segment)
    && !Segment.looksLikeVerb facts.vocabulary segment
    && Segment.isSingular facts.vocabulary segment

/-- The segments of a path that pass a test on position and text, with their positions. -/
def flagged (path : String) (test : Nat → String → Bool) : List (Nat × String) :=
  (Path.segments path).zipIdx.filterMap fun (segment, position) =>
    if test position segment then some (position, segment) else none

def renameFlagged (path : String) (segments : List (Nat × String)) (rename : String → String) :
    String :=
  Path.replaceAt path fun position => (segments.lookup position).map rename

/-- Reports segments that name collections in the singular, each with the renaming of all. -/
def lookForSingulars (context : RuleContext) (path : String) : List Finding :=
  let facts := context.facts
  let singular := flagged path (isSingularCollection facts path)
  let plural (segment : String) := Segment.pluralize facts.vocabulary segment
  -- Each fix renames all of them: the path that one fix addresses is gone once another is applied.
  let newPath := renameFlagged path singular plural
  singular.map fun (position, segment) =>
    let target := Members.ofFields
      [("segment", .str segment), ("segmentIndex", .int (Int.ofNat position))]
    context.finding path
      ("Resource name '" ++ segment ++ "' appears singular. Use plural form.")
      { suggestion? := some ("Rename to '" ++ plural segment ++ "'")
        context? := some (Members.ofFields
          [("segment", .str segment), ("suggestedFix", .str (plural segment))])
        fix? := some (Fix.renamePath path newPath (some target) (.str (plural segment))
          .renamePathSegment []) }

/-- Collections have plural names. -/
def pluralResources : Rule where
  id := "aip122/plural-resources"
  name := "Plural Resource Names"
  severity := .warning
  description := "Collection identifiers should be plural nouns, except for singleton resources"
  aip? := some "AIP-122"
  check := .path fun context path _ => .ok (lookForSingulars context path)

def lookForVerbs (context : RuleContext) (path : String) : List Finding :=
  let facts := context.facts
  let verbs := (Path.resources path).filter fun segment =>
    !isExempt facts path segment && Segment.looksLikeVerb facts.vocabulary segment
  verbs.map fun segment =>
    context.finding path ("Path contains verb '" ++ segment ++ "'. Use nouns for resources.")
      { suggestion? := some ("Extract the noun (e.g., '" ++ Segment.withoutVerb segment
          ++ "') or use a custom method (':" ++ segment ++ "')")
        address? := some (Address.ofPath path)
        context? := some (Members.ofFields [("segment", .str segment)]) }

/-- Paths hold nouns. -/
def noVerbs : Rule where
  id := "aip122/no-verbs"
  name := "No Verbs in Path"
  severity := .error
  description :=
    "Paths should name resources with nouns; actions belong in HTTP methods or custom methods"
  aip? := some "AIP-131"
  ownCategory? := some .naming
  check := .path fun context path _ => .ok (lookForVerbs context path)

def countStyle (style : CasingStyle) : List (CasingStyle × Nat) → List (CasingStyle × Nat)
  | [] => [(style, 1)]
  | (known, count) :: rest =>
    if known = style then (known, count + 1) :: rest else (known, count) :: countStyle style rest

/-- How often each style marks a segment, in the order in which the styles came up. Segments in
lower case without marks belong to any style. -/
def styleCounts (paths : List String) : List (CasingStyle × Nat) :=
  let styles := (paths.flatMap Path.resources).map Segment.style
  (styles.filter fun style => style != .lower).foldl (fun counts style => countStyle style counts)
    []

/-- The style counted most often; of several, the one that came up first. -/
def mostCommon? : List (CasingStyle × Nat) → Option CasingStyle
  | [] => none
  | first :: rest =>
    some (rest.foldl (fun best next => if best.2 < next.2 then next else best) first).1

/-- Whether a segment is marked by another style than the dominant one. -/
def hasOtherStyle (dominant : CasingStyle) (segment : String) : Bool :=
  !Segment.isParameter segment && !Segment.hasMethodSuffix segment
    && Segment.style segment != .lower && Segment.style segment != dominant

/-- Reports the segments of a path in another style than the dominant one. -/
def lookForOtherStyles (context : RuleContext) (dominant : CasingStyle) (path : String) :
    List Finding :=
  let offending := flagged path fun _ segment => hasOtherStyle dominant segment
  let newPath := renameFlagged path offending fun segment => Segment.convert segment dominant
  offending.map fun (position, segment) =>
    let style := Segment.style segment
    let converted := Segment.convert segment dominant
    let target := Members.ofFields
      [("segment", .str segment), ("segmentIndex", .int (Int.ofNat position)),
       ("style", .str dominant.name)]
    context.finding path
      ("Inconsistent casing: '" ++ segment ++ "' uses " ++ style.name
        ++ ", but API predominantly uses " ++ dominant.name)
      { suggestion? := some ("Convert to " ++ dominant.name ++ " for consistency: '" ++ converted
          ++ "'")
        context? := some (Members.ofFields
          [("segment", .str segment), ("currentStyle", .str style.name),
           ("dominantStyle", .str dominant.name)])
        fix? := some (Fix.renamePath path newPath (some target) (.str converted)
          .renamePathSegment []) }

/-- Reports all segments out of style, if paths use more than one style. -/
def lookForMixedStyles (context : RuleContext) : List Finding :=
  let paths := (pathItems context.facts.spec).map fun (key, _) => key.display
  let counts := styleCounts paths
  if counts.length < 2 then []
  else
    match mostCommon? counts with
    | none => []
    | some dominant => paths.flatMap (lookForOtherStyles context dominant)

/-- Paths share one casing style. -/
def consistentCasing : Rule where
  id := "aip122/consistent-casing"
  name := "Consistent Casing"
  severity := .warning
  description := "Path segments should share one casing style"
  aip? := some "AIP-122"
  check := .spec fun context => .ok (lookForMixedStyles context)

/-- The name of a parent's identifier: `userId` for `users`. -/
def ownerId (vocabulary : Vocabulary) (parent : String) : String :=
  Segment.convert (Segment.singularize vocabulary parent) .camel ++ "Id"

def placeholder (name : String) : String := "\x7b" ++ name ++ "\x7d"

/-- Whether a parameter object declares the path parameter `id`. -/
def declaresId (parameter : Members) : Bool :=
  (Members.get? parameter "name").any (·.same (.str "id"))
    && (Members.get? parameter "in").any (·.same (.str "path"))

/-- The addresses of the inline declarations of the path parameter `id` in one parameter list;
nothing when the list refers to a shared one, which other paths may use. -/
def idDefinitions? (document : Node) (list : String) :
    Nat → List Node → Except Fault (Option (List String))
  | _, [] => .ok (some [])
  | position, .object members :: rest => do
    if Members.has members "$ref" then
      let shared? := (← resolve? document referenceLimit (.object members)).bind Node.members?
      if shared?.any declaresId then .ok none
      else idDefinitions? document list (position + 1) rest
    else
      let more? ← idDefinitions? document list (position + 1) rest
      if declaresId members then
        .ok (more?.map fun more => (list ++ Address.item position) :: more)
      else .ok more?
  | position, _ :: rest => idDefinitions? document list (position + 1) rest

/-- The parameter lists of a path item: that of the path, and those of its operations with their
methods. -/
def parameterLevels (pathItem : Members) : List (Option String × Members) :=
  (none, pathItem) :: pathItem.filterMap fun (key, value) =>
    match key, value with
    | .str method, .object operation =>
      if httpMethods.contains (lower method) then some (some (lower method), operation) else none
    | _, _ => none

/-- The addresses of the inline declarations of the path parameter `id` in several lists, under a
path. -/
def allIdDefinitions? (document : Node) (path : String) :
    List (Option String × Members) → Except Fault (Option (List String))
  | [] => .ok (some [])
  | (method?, owner) :: rest => do
    match ← idDefinitions? document (Address.ofParameters path method?) 0
        (← parameterItems owner) with
    | none => .ok none
    | some definitions =>
      let more? ← allIdDefinitions? document path rest
      .ok (more?.map (definitions ++ ·))

/-- Renames the placeholder `id` at a position of a path, in the path and in its inline
declarations; nothing when that is ambiguous. -/
def ownershipFix? (facts : ReviewFacts) (path : String) (pathItem : Node) (position : Nat)
    (newName : String) : Except Fault (Option Fix) := do
  if (Path.segments path).contains (placeholder newName) then .ok none
  else
    let newPath := Path.replaceAt path fun other =>
      if other = position then some (placeholder newName) else none
    let levels := parameterLevels (← pathItem.asObject)
    -- Addressed under the new path, since the fix renames the path first.
    let definitions? ← allIdDefinitions? facts.document newPath levels
    .ok (definitions?.map (Fix.renameParameter path newPath "id" newName))

/-- The positions of placeholders that follow a resource name. -/
def ownedPositions (segments : List String) : List Nat :=
  (List.range segments.length).filter fun position =>
    match position with
    | 0 => false
    | before + 1 =>
      segments[before + 1]?.any Segment.isParameter && !segments[before]?.any Segment.isParameter

/-- Reports placeholders `id` in a path that nests resources. The fix comes along when there is
one such placeholder. -/
def lookForGenericIds (context : RuleContext) (path : String) (pathItem : Node) : Report := do
  let segments := Path.segments path
  let owned := ownedPositions segments
  if owned.length < 2 then .ok []
  else
    let generic := owned.filter fun position => segments[position]? == some "\x7bid\x7d"
    let parent (position : Nat) : String := segments[position - 1]?.getD ""
    let name (position : Nat) : String := ownerId context.facts.vocabulary (parent position)
    -- With several of them, one parameter `id` would have to take two names.
    let fix? ←
      match generic with
      | [position] => ownershipFix? context.facts path pathItem position (name position)
      | _ => .ok none
    .ok (generic.map fun position =>
      context.finding path
        ("Generic '\x7bid\x7d' in nested path. Use descriptive name like '"
          ++ placeholder (name position) ++ "'")
        { suggestion? := some ("Rename to '" ++ placeholder (name position)
            ++ "' so the owning resource is clear")
          address? := if fix?.isSome then none else some (Address.ofPath path)
          context? := some (Members.ofFields
            [("paramName", .str "id"), ("parentResource", .str (parent position)),
             ("suggestedName", .str (name position))])
          fix? := fix? })

/-- Nested paths name the identifiers of parents. -/
def nestedOwnership : Rule where
  id := "aip122/nested-ownership"
  name := "Nested Resource Ownership"
  severity := .suggestion
  description := "Nested paths should name parent identifiers after their resource"
  aip? := some "AIP-122"
  check := .path lookForGenericIds

end ApiReview.Rules
