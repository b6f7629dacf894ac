import ApiReview.Proofs.Address.Anchored
import ApiReview.Proofs.Spec.ParameterLists
import ApiReview.Proofs.Spec.ReferenceChains
import ApiReview.Spec.Response

/-! Where the schema of a response is defined. The response may lie behind
references, and so may the schema of the media type whose content counts; the
relation here names the places on the way to the definition. -/

set_option autoImplicit false

namespace ApiReview

open ApiReview.Text

variable {document before node found : Node} {path key code text name : String} {operation : Operation}
  {members content schema defined : Members} {place last counted way : List Part}
  {trail : List (List Part)} {mediaType address : String}

/-- The response of an operation for a code leads to the definition of its schema, past the places
of the trail and over the content at `counted`. -/
inductive RespondsWith (document : Node) (path key code : String) :
    List (List Part) → List Part → List Part → Prop
  | intro {first behind : List (List Part)} {response last : List Part} {content : Members}
      {mediaType : String} :
      Resolves document referenceLimit
        [.name "paths", .name path, .name key, .name "responses", .name code] first response →
      document.at? (response ++ [.name "content"]) = some (.object content) →
      mediaType? (.object content) = .ok (some (.str mediaType)) →
      Resolves document referenceLimit
        ((response ++ [.name "content"]) ++ [.name mediaType, .name "schema"]) behind last →
      RespondsWith document path key code (first ++ behind) (response ++ [.name "content"]) last

/-! ## Objects that count as empty when they are absent -/

theorem Node.optional_object {node? : Option Node}
    (shape : Node.optional node? = .object members) (some_member : members ≠ []) :
    node? = some (.object members) := by
  cases node? with
  | none =>
      cases shape
      exact absurd rfl some_member
  | some node =>
      rw [Node.optional, Option.getD_some, Node.orEmpty] at shape
      split at shape
      · rw [shape]
      · cases shape
        exact absurd rfl some_member

/-- A member that counts as an object with members stands at its place. -/
theorem at?_optional {inner : Members} (reached : document.at? place = some (.object members))
    (shape : Node.optional (Members.get? members name) = .object inner) (some_member : inner ≠ []) :
    document.at? (place ++ [.name name]) = some (.object inner) := by
  rw [Node.at?_member reached]
  exact Node.optional_object shape some_member

theorem Node.optional_of_get? {inner : Node} (read : Members.get? members name = some inner) :
    Node.optional (some (.object members)) = .object members := by
  have filled : (Node.object members).isFilled = true := by
    rw [Node.isFilled, List.isEmpty_eq_false_iff.mpr (List.ne_nil_of_mem (Members.mem_of_lookup read))]
    rfl
  rw [Node.optional, Option.getD_some, Node.orEmpty, if_pos filled]

theorem asObject_ok (read : node.asObject = .ok members) : node = .object members := by
  cases node with
  | object found =>
      cases read
      rfl
  | _ => cases read

/-! ## Responses -/

theorem response?_ok (read : response? node code = .ok (some found)) :
    ∃ responses, node = .object responses ∧ responses ≠ [] ∧
      ((Node.object responses).isNamed = true → Members.get? responses code = some found) := by
  cases node with
  | object responses =>
      refine ⟨responses, rfl, ?_⟩
      simp only [response?, Node.mentions, bind, Except.bind] at read
      split at read
      · have held := Except.ok.inj read
        exact ⟨List.ne_nil_of_mem (Members.mem_of_lookup held), fun _ => held⟩
      · split at read
        · simp only [Node.asObject] at read
          split at read
          · have held := Except.ok.inj read
            obtain ⟨⟨key, value⟩, same, _⟩ := Option.map_eq_some_iff.mp held
            refine ⟨List.ne_nil_of_mem (List.mem_of_find?_eq_some same), fun named => ?_⟩
            -- the keys of a named document are texts, which are no numbers
            obtain ⟨name, rfl⟩ := (Node.isNamed_of_mem named (List.mem_of_find?_eq_some same)).1
            have equal := List.find?_some same
            simp [Key.same, Key.toNode, Node.sameScalar, Node.quantity?] at equal
          · cases read
        · cases read
  | _ =>
      unfold response? at read
      obtain ⟨mentioned, _, read⟩ := bind_ok read
      split at read
      · cases read
      · split at read <;> cases read

theorem response?_of_get? {responses : Members} (read : Members.get? responses code = some node) :
    response? (.object responses) code = .ok (some node) := by
  have present : Members.has responses code = true := by
    rw [Members.has, read]
    rfl
  simp only [response?, Node.mentions, bind, Except.bind, present, if_true, read]

/-! ## References with addresses -/

theorem Resolves.referenceAddress?_eq {limit : Nat} {reference : Node}
    (resolves : Resolves document limit place trail last) (found : document.at? place = some node)
    (held : node.get? "$ref" = some reference) :
    ∃ address, referenceAddress? reference = .ok (some address) := by
  cases resolves with
  | rest here free =>
      cases here.symm.trans found
      rw [held] at free
      cases free
  | step here same read =>
      cases here.symm.trans found
      cases held.symm.trans same
      rw [referenceAddress?, Address.ofReference, read]
      exact ⟨_, rfl⟩

theorem referenceAddress?_ok {reference : Node}
    (read : referenceAddress? reference = .ok (some address)) : Address.IsAddressText address := by
  cases reference with
  | str reference =>
      have read := Except.ok.inj read
      cases built : Address.ofReference reference with
      | error error =>
          rw [built] at read
          cases read
      | ok text =>
          rw [built] at read
          cases read
          exact Address.IsAddressText.ofReference built
  | _ => cases read

theorem resolveWithAddress_ok (reached : document.at? place = some node)
    (read : resolveWithAddress document node text = .ok (some (defined, address))) :
    ∃ trail last, Resolves document referenceLimit place trail last ∧
      document.at? last = some (.object defined) ∧
      (Address.IsAddressText text → Address.IsAddressText address) := by
  rw [resolveWithAddress] at read
  split at read
  · rename_i free
    cases node with
    | object members =>
        cases read
        exact ⟨[place], place, .rest reached free, reached, id⟩
    | _ => cases read
  · rename_i reference held
    obtain ⟨address?, addressed, read⟩ := bind_ok read
    obtain ⟨target?, resolved, read⟩ := bind_ok read
    split at read
    · rename_i ends _
      cases read
      obtain ⟨target, rfl, shape⟩ := Option.bind_eq_some_iff.mp ends
      obtain ⟨trail, last, resolves, ends⟩ := exists_resolves reached resolved
      cases target with
      | object members =>
          cases shape
          exact ⟨trail, last, resolves, ends, fun _ => referenceAddress?_ok addressed⟩
      | _ => cases shape
    · cases read

theorem Resolves.resolveWithAddress_eq (resolves : Resolves document referenceLimit place trail last)
    (reached : document.at? place = some node) (ends : document.at? last = some (.object defined))
    (text : String) : ∃ address, resolveWithAddress document node text = .ok (some (defined, address)) := by
  have resolved := resolves.resolve?_eq reached ends
  cases held : node.get? "$ref" with
  | none =>
      rw [referenceLimit, resolve?, held] at resolved
      cases resolved
      rw [resolveWithAddress, held]
      exact ⟨text, rfl⟩
  | some reference =>
      obtain ⟨address, addressed⟩ := resolves.referenceAddress?_eq reached held
      rw [resolveWithAddress, held]
      simp only [addressed, resolved, bind, Except.bind, Option.bind_some, Node.members?]
      exact ⟨address, rfl⟩

/-! ## Media types -/

theorem mediaType?_object (content : Members) :
    mediaType? (.object content) = .ok
      (((preferredMediaTypes.filter (Members.has content)).map Node.str ++
        ((content.map fun member => member.1.toNode).head?.filter fun node =>
          !node.isNull).toList).head?) := by
  cases json : Members.has content "application/json" <;>
    cases any : Members.has content "*/*" <;>
    simp [mediaType?, preferredMediaTypes, List.filterM, List.filterAuxM, Node.mentions,
      Node.elements, bind, Except.bind, pure, Except.pure, json, any]

theorem mediaType?_ok (read : mediaType? (.object content) = .ok (some node)) :
    content ≠ [] ∧ ((Node.object content).isNamed = true → ∃ name, node = .str name) := by
  rw [mediaType?_object] at read
  have among := List.mem_of_mem_head? (Except.ok.inj read)
  rcases List.mem_append.mp among with preferred | front
  · obtain ⟨name, listed, rfl⟩ := List.mem_map.mp preferred
    have present := Members.has_iff.mp (List.mem_filter.mp listed).2
    refine ⟨?_, fun _ => ⟨name, rfl⟩⟩
    rintro rfl
    cases present
  · rw [Option.mem_toList, Option.filter_eq_some_iff] at front
    obtain ⟨⟨key, value⟩, inside, rfl⟩ := List.mem_map.mp (List.mem_of_mem_head? front.1)
    refine ⟨List.ne_nil_of_mem inside, fun named => ?_⟩
    obtain ⟨name, rfl⟩ := (Node.isNamed_of_mem named inside).1
    exact ⟨name, rfl⟩

/-- The media type that counts stays when members are added behind the others, none of which is
preferred. -/
theorem mediaType?_kept {later : Members}
    (preferred : ∀ name ∈ preferredMediaTypes, Members.has later name = Members.has content name)
    (front : ∀ key, (Members.keys content).head? = some key →
      (Members.keys later).head? = some key)
    (some_member : content ≠ []) : mediaType? (.object later) = mediaType? (.object content) := by
  have same : preferredMediaTypes.filter (Members.has later) =
      preferredMediaTypes.filter (Members.has content) := List.filter_congr preferred
  have heads : (content.map fun member => member.1.toNode).head? =
      (later.map fun member => member.1.toNode).head? := by
    cases content with
    | nil => exact absurd rfl some_member
    | cons first rest =>
        have kept := front first.1 rfl
        cases later with
        | nil => cases kept
        | cons other others =>
            have equal : other.1 = first.1 := Option.some.inj kept
            rw [List.map_cons, List.map_cons, List.head?_cons, List.head?_cons, equal]
  rw [mediaType?_object, mediaType?_object, same, heads]

theorem contentOf_str (content : Members) (name : String) :
    contentOf content (.str name) = Members.get? content name := by
  induction content with
  | nil => rfl
  | cons first rest ih =>
      obtain ⟨key, value⟩ := first
      by_cases same : key = .str name
      · subst same
        rw [contentOf, List.find?_cons_of_pos (by exact Node.same_str_self name), Option.map_some,
          Members.get?, Members.lookup_cons_of_eq rfl]
      · have different : ¬ key.toNode.same (.str name) = true := by
          intro equal
          have shape := Node.same_str equal
          cases key with
          | str other => exact same (congrArg Key.str (Node.str.inj shape))
          | _ => cases shape
        rw [contentOf, List.find?_cons_of_neg (by exact different), Members.get?,
          Members.lookup_cons_of_ne same]
        exact ih

/-! ## Schemas of responses -/

section Schemas

variable (definitionAt : document.at? [.name "paths", .name operation.path, .name key] =
  some (.object operation.definition))

include definitionAt

/-- What a schema that is found for a response was read from: the definition of the response, the
content in it that counts, and what this declares as its schema. -/
theorem responseSchema?_declared (named : document.isNamed = true)
    (read : responseSchema? document operation code = .ok (some (schema, address))) :
    ∃ response defined text content mediaType media declared,
      document.at? [.name "paths", .name operation.path, .name key, .name "responses",
        .name code] = some response ∧
      resolveWithAddress document response
        (Address.ofResponse operation.path operation.method code) = .ok (some (defined, text)) ∧
      Members.get? defined "content" = some (.object content) ∧
      mediaType? (.object content) = .ok (some (.str mediaType)) ∧
      Members.get? content mediaType = some (.object media) ∧
      Members.get? media "schema" = some declared ∧
      resolveWithAddress document declared (Address.contentSchema text mediaType) =
        .ok (some (schema, address)) := by
  obtain ⟨response?, responded, read⟩ := bind_ok read
  cases response? with
  | none => cases read
  | some response =>
  obtain ⟨responses, responsesShape, some_response, listed⟩ := response?_ok responded
  have responsesAt := at?_optional definitionAt responsesShape some_response
  have responseAt := Node.at?_member responsesAt code
  rw [show (Node.object responses).get? code = some response from
    listed (Node.isNamed_of_at? named responsesAt)] at responseAt
  obtain ⟨resolved?, followed, read⟩ := bind_ok read
  cases resolved? with
  | none => cases read
  | some resolved =>
  obtain ⟨defined, text⟩ := resolved
  obtain ⟨_, place, _, placed, _⟩ := resolveWithAddress_ok responseAt followed
  obtain ⟨mediaType?, chosen, read⟩ := bind_ok read
  cases mediaType? with
  | none => cases read
  | some mediaNode =>
  obtain ⟨content, contentShape, read⟩ := bind_ok read
  have contentShape := asObject_ok contentShape
  rw [contentShape] at chosen
  obtain ⟨some_content, textual⟩ := mediaType?_ok chosen
  have contentAt := at?_optional placed contentShape some_content
  obtain ⟨mediaType, rfl⟩ := textual (Node.isNamed_of_at? named contentAt)
  obtain ⟨media, mediaShape, read⟩ := bind_ok read
  have mediaShape := asObject_ok mediaShape
  rw [contentOf_str] at mediaShape
  cases held : Members.get? media "schema" with
  | none =>
      rw [held] at read
      cases read
  | some declared =>
      rw [held] at read
      have some_media := List.ne_nil_of_mem (Members.mem_of_lookup held)
      exact ⟨response, defined, text, content, mediaType, media, declared, responseAt, followed,
        Node.optional_object contentShape some_content, chosen,
        Node.optional_object mediaShape some_media, held, read⟩

/-- The schema that is found for a response is defined where the response leads to. -/
theorem responseSchema?_ok (named : document.isNamed = true)
    (word : Address.isPlainName (lower operation.method).toList = true)
    (read : responseSchema? document operation code = .ok (some (schema, address))) :
    ∃ trail counted last, RespondsWith document operation.path key code trail counted last ∧
      document.at? last = some (.object schema) ∧ Address.IsAddressText address := by
  obtain ⟨response, defined, text, content, mediaType, media, declared, responseAt, followed,
    contentHeld, chosen, mediaHeld, held, read⟩ := responseSchema?_declared definitionAt named read
  obtain ⟨first, place, toResponse, placed, responseText⟩ :=
    resolveWithAddress_ok responseAt followed
  have contentAt := (Node.at?_member placed "content").trans contentHeld
  have mediaAt := (Node.at?_member contentAt mediaType).trans mediaHeld
  have schemaAt := (Node.at?_member mediaAt "schema").trans held
  rw [List.append_assoc] at schemaAt
  obtain ⟨behind, last, toSchema, ends, schemaText⟩ := resolveWithAddress_ok schemaAt read
  refine ⟨_, _, last, .intro toResponse contentAt chosen toSchema, ends, ?_⟩
  exact schemaText ((responseText (.ofResponse word operation.path code)).contentSchema _)

/-- A response that leads to the definition of a schema has that schema. -/
theorem RespondsWith.responseSchema?_eq {counted : List Part}
    (responds : RespondsWith document operation.path key code trail counted last)
    (ends : document.at? last = some (.object schema)) :
    ∃ address, responseSchema? document operation code = .ok (some (schema, address)) := by
  obtain ⟨toResponse, contentAt, chosen, toSchema⟩ := responds
  rename_i first behind response content mediaType
  obtain ⟨responseNode, responseAt⟩ := toResponse.exists_at? toResponse.head_mem
  have responseBelow : document.at? ([.name "paths", .name operation.path, .name key,
      .name "responses"] ++ [.name code]) = some responseNode := responseAt
  obtain ⟨responses, responsesAt, listed⟩ := Node.exists_object_of_member responseBelow
  have responsesHeld := Node.at?_member definitionAt "responses"
  rw [show [Part.name "paths", .name operation.path, .name key] ++ [.name "responses"] =
    [.name "paths", .name operation.path, .name key, .name "responses"] from rfl,
    responsesAt] at responsesHeld
  obtain ⟨defined, placed, contentHeld⟩ := Node.exists_object_of_member contentAt
  obtain ⟨declared, schemaAt⟩ := toSchema.exists_at? toSchema.head_mem
  have schemaBelow : document.at? (response ++ [.name "content"] ++ [.name mediaType] ++
      [.name "schema"]) = some declared := by simpa using schemaAt
  obtain ⟨media, mediaAt, schemaHeld⟩ := Node.exists_object_of_member schemaBelow
  have mediaHeld := Node.at?_member contentAt mediaType
  rw [mediaAt] at mediaHeld
  obtain ⟨text, followed⟩ := toResponse.resolveWithAddress_eq responseAt placed
    (Address.ofResponse operation.path operation.method code)
  obtain ⟨address, reached⟩ := toSchema.resolveWithAddress_eq schemaAt ends
    (Address.contentSchema text mediaType)
  refine ⟨address, ?_⟩
  have responsesShape : Members.get? operation.definition "responses" = some (.object responses) :=
    responsesHeld.symm
  have mediaShape : Members.get? content mediaType = some (.object media) := mediaHeld.symm
  simp only [responseSchema?, responsesShape, Node.optional_of_get? listed,
    response?_of_get? listed, followed, contentHeld, Node.optional_of_get? mediaShape, chosen,
    Node.asObject, contentOf_str, mediaShape, Node.optional_of_get? schemaHeld, schemaHeld,
    Node.display, reached, bind, Except.bind]

end Schemas

theorem RespondsWith.last_mem {counted : List Part}
    (responds : RespondsWith document path key code trail counted last) : last ∈ trail := by
  obtain ⟨_, _, _, toSchema⟩ := responds
  exact List.mem_append_right _ toSchema.last_mem

theorem RespondsWith.exists_at? {counted other : List Part}
    (responds : RespondsWith document path key code trail counted last) (among : other ∈ trail) :
    ∃ found, document.at? other = some found := by
  obtain ⟨toResponse, _, _, toSchema⟩ := responds
  exact (List.mem_append.mp among).elim toResponse.exists_at? toSchema.exists_at?

theorem RespondsWith.unique {counted another other : List Part} {passed : List (List Part)}
    (responds : RespondsWith document path key code trail counted last)
    (again : RespondsWith document path key code passed another other) : other = last := by
  obtain ⟨toResponse, contentAt, chosen, toSchema⟩ := responds
  obtain ⟨toResponseToo, contentAtToo, chosenToo, toSchemaToo⟩ := again
  obtain ⟨_, rfl⟩ := toResponse.unique toResponseToo
  cases contentAt.symm.trans contentAtToo
  cases chosen.symm.trans chosenToo
  exact (toSchema.unique toSchemaToo).2

/-- A response leads to the same place after a value was put outside of its places, unless it
brings a media type that is preferred. -/
theorem RespondsWith.graft {counted : List Part}
    (responds : RespondsWith before path key code trail counted last)
    (spares : before.Spares way "$ref") (apart : ∀ other ∈ trail, ¬ way <+: other)
    (kept : ∀ name ∈ preferredMediaTypes, counted ++ [.name name] <+: way →
      counted ++ [.name name] ≠ way ∧ ∃ found, before.at? (counted ++ [.name name]) = some found)
    (value : Node) :
    RespondsWith (Node.graft value way before) path key code trail counted last := by
  obtain ⟨toResponse, contentAt, chosen, toSchema⟩ := responds
  rename_i first behind response content mediaType
  have outside : ¬ way <+: response ++ [.name "content"] := fun inside =>
    apart _ (List.mem_append_right _ toSchema.head_mem) (inside.trans (List.prefix_append ..))
  obtain ⟨now, laterAt, alike⟩ := Node.at?_graft_apart value outside contentAt
  obtain ⟨later, rfl, front⟩ := alike.of_object
  have preferred : ∀ name ∈ preferredMediaTypes,
      Members.has later name = Members.has content name := by
    intro name listed
    have beyond : ¬ way <+: response ++ [.name "content"] ++ [.name name] := fun inside =>
      (List.prefix_concat_iff.mp inside).elim
        (fun same => (kept name listed (same ▸ List.prefix_refl _)).1 same.symm) outside
    have related : Option.Rel Node.Alike (before.at? (response ++ [.name "content"] ++ [.name name]))
        ((Node.graft value way before).at? (response ++ [.name "content"] ++ [.name name])) :=
      Node.at?_graft_alike beyond fun above => (kept name listed above).2
    rw [Node.at?_member contentAt, Node.at?_member laterAt] at related
    have old : (Node.object content).get? name = Members.get? content name := rfl
    have new : (Node.object later).get? name = Members.get? later name := rfl
    rw [old, new] at related
    rw [Members.has, Members.has]
    generalize Members.get? content name = first at related ⊢
    generalize Members.get? later name = second at related ⊢
    cases related <;> rfl
  have chosenLater := (mediaType?_kept preferred front (mediaType?_ok chosen).1).trans chosen
  refine .intro (toResponse.graft spares (fun other among => ?_) value) laterAt chosenLater
    (toSchema.graft spares (fun other among => ?_) value)
  · exact apart other (List.mem_append_left _ among)
  · exact apart other (List.mem_append_right _ among)

end ApiReview
