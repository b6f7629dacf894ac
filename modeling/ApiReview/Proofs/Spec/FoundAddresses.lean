import ApiReview.Proofs.Address.Parameters
import ApiReview.Proofs.Spec.EditedOperation
import ApiReview.Proofs.Spec.QueryDeclarations
import ApiReview.Proofs.Spec.ReferenceAddresses
import ApiReview.Proofs.Spec.ResponseSchemas

/-! The addresses that come with what is read from a document. The definition of an
operation, a parameter or a schema and its address are put together side by side,
on one branch or another: in place or behind a reference, at the path or at the
operation. Where references are direct and no two parameters of a list are alike,
every address leads back to the definition beside it. -/

set_option autoImplicit false

namespace ApiReview

open ApiReview.Address

variable {spec node : Node} {names : List String} {text path key code name reference address : String}
  {members defined schema root : Members} {items : List Node} {operation : Operation}
  {operations : List Operation} {parameter : Parameter} {method? : Option Method}

/-- Whether an address is located and the part of the document there is the given one. -/
def LeadsTo (spec : Node) (address : String) (node : Node) : Prop :=
  ∃ parts, locate spec address = .ok parts ∧ spec.lookup? parts = .ok (some node)

theorem leadsTo_of_at? {parts : List Part} (located : locate spec address = .ok parts)
    (reached : spec.at? parts = some node) : LeadsTo spec address node := by
  have looked := Node.lookup?_append reached []
  rw [List.append_nil] at looked
  exact ⟨parts, located, looked⟩

/-! ## Texts that spell names -/

/-- Whether a text is an address that goes through some names and nothing else. -/
def Spells (text : String) (names : List String) : Prop :=
  ∃ steps, IsWritten text steps ∧ steps.map WrittenStep.selector = names.map memberSelector ∧
    ∀ step ∈ steps, step.isPlain = true ∧ step.isReserved = false

namespace Spells

theorem leadsTo (spells : Spells text names) (found : spec.at? (names.map .name) = some node) :
    LeadsTo spec text node := by
  obtain ⟨steps, written, selects, words⟩ := spells
  exact leadsTo_of_at? (locate_words written selects words spec) found

theorem append {behind : List String} {whole : String} (spells : Spells text names)
    (more : List WrittenStep)
    (written : ∀ steps, IsWritten text steps → IsWritten whole (steps ++ more))
    (selects : more.map WrittenStep.selector = behind.map memberSelector)
    (words : ∀ step ∈ more, step.isPlain = true ∧ step.isReserved = false) :
    Spells whole (names ++ behind) := by
  obtain ⟨steps, writtenBefore, selectsBefore, wordsBefore⟩ := spells
  refine ⟨steps ++ more, written steps writtenBefore, ?_, ?_⟩
  · rw [List.map_append, List.map_append, selectsBefore, selects]
  · intro step among
    exact (List.mem_append.mp among).elim (wordsBefore step) (words step)

theorem ofOperation (method : isMethodKey key = true) (path : String) :
    Spells (ofOperation path (Text.upper key)) ["paths", path, Text.lower key] := by
  have written := isWritten_ofOperation path (Text.upper key)
  rw [lower_upper_of_isMethodKey method] at written
  have words := words_ofOperation method path [] (by simp)
  rw [List.append_nil] at words
  exact ⟨_, written, rfl, words⟩

theorem ofResponse (method : isMethodKey key = true) (path code : String) :
    Spells (ofResponse path (Text.upper key) code)
      ["paths", path, Text.lower key, "responses", code] :=
  (ofOperation method path).append [.bare "responses", .quoted code]
    (fun steps written => by
      have extended := (written.bare
        (show ".responses".toList = '.' :: "responses".toList from rfl)).quoted code
      rw [List.append_assoc] at extended
      exact extended) rfl (words_response code)

theorem contentSchema (spells : Spells text names) (mediaType : String) :
    Spells (contentSchema text mediaType) (names ++ ["content", mediaType, "schema"]) := by
  refine spells.append [.bare "content", .quoted mediaType, .bare "schema"] ?_ rfl ?_
  · intro steps written
    have extended := ((written.bare (show ".content".toList = '.' :: "content".toList from rfl)).quoted
      mediaType).bare (show ".schema".toList = '.' :: "schema".toList from rfl)
    simpa [Address.contentSchema] using extended
  · intro step among
    simp only [List.mem_cons, List.not_mem_nil, or_false] at among
    rcases among with rfl | rfl | rfl
    · decide
    · exact ⟨rfl, rfl⟩
    · decide

theorem ofReference (read : referenceNames? reference = some names)
    (free : ∀ name ∈ names, isReservedWord name = false)
    (built : ofReference reference = .ok text) : Spells text names := by
  rw [Address.ofReference, read] at built
  cases built
  refine ⟨_, isWritten_memberSteps names, selector_referenceSteps names, fun step among => ?_⟩
  refine ⟨isPlain_referenceSteps names step among, Bool.eq_false_iff.mpr fun reserved => ?_⟩
  obtain ⟨name, inside, word⟩ := (isReserved_referenceSteps names).mp ⟨step, among, reserved⟩
  rw [free name (List.mem_of_mem_dropLast inside)] at word
  cases word

end Spells

/-! ## Direct references -/

namespace Node

mutual

/-- The objects in a document, itself among them. -/
def objects : Node → List Members
  | .list items => objectsOfItems items
  | .object members => members :: objectsOfMembers members
  | _ => []

/-- The objects in the items of a list. -/
def objectsOfItems : List Node → List Members
  | [] => []
  | item :: rest => item.objects ++ objectsOfItems rest

/-- The objects in the members of an object. -/
def objectsOfMembers : List (Key × Node) → List Members
  | [] => []
  | (_, value) :: rest => value.objects ++ objectsOfMembers rest

end

theorem objects_of_item {item : Node} (among : item ∈ items) :
    item.objects ⊆ objectsOfItems items := by
  induction items with
  | nil => cases among
  | cons first rest ih =>
      rw [objectsOfItems]
      rcases List.mem_cons.mp among with rfl | behind
      · exact List.subset_append_left _ _
      · exact fun _ held => List.mem_append_right _ (ih behind held)

theorem objects_of_member {key : Key} {value : Node} (among : (key, value) ∈ members) :
    value.objects ⊆ objectsOfMembers members := by
  induction members with
  | nil => cases among
  | cons first rest ih =>
      obtain ⟨head, held⟩ := first
      rw [objectsOfMembers]
      rcases List.mem_cons.mp among with here | behind
      · cases here
        exact List.subset_append_left _ _
      · exact fun _ held => List.mem_append_right _ (ih behind held)

theorem objects_of_part? {part : Part} {child : Node} (stepped : node.part? part = some child) :
    child.objects ⊆ node.objects := by
  rcases takes_cases (takes_of_part? stepped) with
    ⟨name, members, rfl, rfl⟩ | ⟨index, items, rfl, rfl, within⟩
  · rw [objects]
    exact fun _ held => List.mem_cons_of_mem _ (objects_of_member (Members.mem_of_lookup stepped) held)
  · have read : items[index]? = some child := stepped
    rw [objects]
    exact objects_of_item (List.mem_of_getElem? read)

theorem mem_objects_of_at? {way : List Part} (reached : spec.at? way = some (.object members)) :
    members ∈ spec.objects := by
  induction way generalizing spec with
  | nil =>
      cases reached
      rw [objects]
      exact List.mem_cons_self
  | cons part way ih =>
      obtain ⟨child, stepped, reached⟩ := Option.bind_eq_some_iff.mp reached
      exact objects_of_part? stepped (ih reached)

end Node

/-- An object that is a reference and nothing else. It leads through members to an object that is
no reference, and no name on the way is a reserved word. -/
def RefersDirectly (spec : Node) (members : Members) : Prop :=
  ∃ reference names target, members = [(.str "$ref", .str reference)] ∧
    referenceNames? reference = some names ∧ (∀ name ∈ names, isReservedWord name = false) ∧
    spec.at? (names.map .name) = some (.object target) ∧ Members.get? target "$ref" = none

theorem descend?_of_at? (reached : spec.at? (names.map .name) = some node) :
    descend? names spec = .ok (some node) := by
  induction names generalizing spec with
  | nil =>
      cases reached
      rfl
  | cons name names ih =>
      obtain ⟨child, stepped, below⟩ := Option.bind_eq_some_iff.mp reached
      cases spec with
      | object members =>
          have held : Members.get? members name = some child := stepped
          rw [descend?, held]
          exact ih below
      | _ => cases stepped

/-- A direct reference is resolved to what its address leads to. -/
theorem RefersDirectly.resolves (direct : RefersDirectly spec members) :
    ∃ reference names target text, Members.get? members "$ref" = some (.str reference) ∧
      Address.ofReference reference = .ok text ∧ Spells text names ∧
      spec.at? (names.map .name) = some (.object target) ∧
      resolve? spec referenceLimit (.object members) = .ok (some (.object target)) := by
  obtain ⟨reference, names, target, rfl, read, free, reached, ends⟩ := direct
  have built : Address.ofReference reference = .ok ("$" ++ memberSteps names) := by
    rw [Address.ofReference, read]
  have followed : follow? spec reference = .ok (some (.object target)) := by
    rw [follow?, read]
    exact descend?_of_at? reached
  refine ⟨reference, names, target, _, rfl, built, .ofReference read free built, reached, ?_⟩
  have held : (Node.object [(.str "$ref", .str reference)]).get? "$ref" = some (.str reference) := rfl
  have stopped : (Node.object target).get? "$ref" = none := ends
  rw [referenceLimit, resolve?, held]
  simp only [followed, bind, Except.bind]
  rw [resolve?, stopped]

/-! ## Documents whose parts are told apart -/

/-- A parameter list in which every parameter that stands in place has a name and a location that
are texts, and no two have the same. -/
structure TellsApart (items : List Node) : Prop where
  described : ∀ members, .object members ∈ items → Members.get? members "$ref" = none →
    Members.has members "name" = true → ∃ name location, location ≠ "" ∧
      Describes name location (.object members)
  apart : items.Pairwise fun earlier later => ∀ name location, Describes name location earlier →
    ¬ Describes name location later

/-- A document with distinct names as keys and lower-case methods, in which references are direct
and the parameters of each list are told apart. -/
structure IsAddressable (spec : Node) : Prop where
  named : spec.isNamed = true
  methods : ∀ path pathItem key value, spec.at? [.name "paths", .name path] = some (.object pathItem) →
    (.str key, value) ∈ pathItem → isMethodKey key = true → Text.lower key = key
  references : ∀ members ∈ spec.objects, Members.has members "$ref" = true →
    RefersDirectly spec members
  parameters : ∀ path method? items,
    spec.at? ((parameterNames path method?).map .name) = some (.list items) → TellsApart items

namespace IsAddressable

/-- A definition that is read from a list of parameters stands where its address leads. -/
theorem leadsTo_parameter (addressable : IsAddressable spec)
    (listed : spec.at? ((parameterNames path method?).map .name) = some (.list items))
    (among : node ∈ items)
    (read : parameter? spec path (method?.map Subtype.val) node = .ok (some parameter)) :
    LeadsTo spec parameter.address (.object parameter.definition) := by
  obtain ⟨members, nameNode, rfl, resolved, nameHeld, -, location, shape⟩ := parameter?_ok read
  obtain ⟨index, inside, here⟩ := List.mem_iff_getElem.mp among
  have placed : spec.at? ((parameterNames path method?).map .name ++
      [.position (.ofNat index)]) = some (.object members) := by
    rw [Node.at?_append_of_some listed, Node.at?_singleton]
    exact (List.getElem?_eq_getElem inside).trans (congrArg some here)
  cases held : Members.get? members "$ref" with
  | none =>
      have own : (Node.object members).get? "$ref" = none := held
      rw [referenceLimit, resolve?, own] at resolved
      cases resolved
      obtain ⟨described, apart⟩ := addressable.parameters path method? items listed
      obtain ⟨name, place, given, _, same, isName, isPlace⟩ := described _ among held
        (Members.has_iff.mpr (List.mem_map_of_mem (Members.mem_of_lookup nameHeld)))
      rw [← Node.object.inj same] at isName isPlace
      cases nameHeld.symm.trans isName
      rw [isPlace, Option.getD_some] at location
      have text : locationText? (.str place) = some place := by
        simp [locationText?, Node.isFilled, Node.display, given]
      rw [held, location, text, Node.display] at shape
      rw [shape]
      refine leadsTo_of_at? (locate_parameter_first listed given
        ((List.getElem?_eq_getElem inside).trans (congrArg some here))
        ⟨_, rfl, isName, isPlace⟩ ?_) placed
      intro earlier other before stands describes
      obtain ⟨bound, rfl⟩ := List.getElem?_eq_some_iff.mp stands
      exact List.pairwise_iff_getElem.mp apart earlier index bound inside before name place
        describes (here ▸ ⟨_, rfl, isName, isPlace⟩)
  | some reference =>
      have direct := addressable.references members (Node.mem_objects_of_at? placed)
        (Members.has_iff.mpr (List.mem_map_of_mem (Members.mem_of_lookup held)))
      obtain ⟨reference, names, target, text, refers, built, spells, reached, ends⟩ :=
        direct.resolves
      cases ends.symm.trans resolved
      rw [refers, Option.bind_some, Node.text?, Option.bind_some, built] at shape
      exact shape ▸ spells.leadsTo reached

section Operations

variable (addressable : IsAddressable (.object root)) {pathKey : Key}
  (source : IsOperation (.object root) root pathKey key operation)

include addressable source

theorem key_eq : ∃ method : Method, key = method.val := by
  have own := addressable.methods operation.path operation.pathItem key (.object operation.definition)
    (source.at?_eq addressable.named).1 source.declared source.isMethod
  exact ⟨⟨key, own ▸ List.contains_iff_mem.mp source.isMethod⟩, rfl⟩

theorem leadsTo_operation :
    LeadsTo (.object root) operation.address (.object operation.definition) := by
  obtain ⟨method, rfl⟩ := addressable.key_eq source
  have spells := Spells.ofOperation source.isMethod operation.path
  rw [← source.method, lower_of_mem method method.2] at spells
  exact spells.leadsTo (source.definitionAt addressable.named)

/-- Every parameter of an operation stands where its address leads, in the list of the path or in
that of the operation. -/
theorem leadsTo_parameters (among : parameter ∈ operation.parameters) :
    LeadsTo (.object root) parameter.address (.object parameter.definition) := by
  obtain ⟨method, rfl⟩ := addressable.key_eq source
  have itemAt := (source.at?_eq addressable.named).1
  have definitionAt := source.definitionAt addressable.named
  have lists {owner : Members} {place : List Part} {items : List Node} (method? : Option Method)
      (ownerAt : (Node.object root).at? place = some (.object owner))
      (way : place ++ [.name "parameters"] = (parameterNames operation.path method?).map .name)
      (listed : parameterItems owner = .ok items) {item : Node} (inside : item ∈ items)
      (read : parameter? (.object root) operation.path (method?.map Subtype.val) item =
        .ok (some parameter)) :
      LeadsTo (.object root) parameter.address (.object parameter.definition) := by
    obtain ⟨other, found, reached⟩ := exists_place ownerAt listed inside read
    rw [itemPlaces, way] at found
    split at found
    · rename_i entries listedAt
      obtain ⟨index, _, rfl⟩ := List.mem_map.mp found
      rw [Node.at?_append_of_some listedAt, Node.at?_singleton] at reached
      have held : entries[index]? = some item := reached
      exact addressable.leadsTo_parameter listedAt (List.mem_of_getElem? held) read
    · cases found
  obtain ⟨sharedItems, sharedRead, collected⟩ := bind_ok source.parameters
  obtain ⟨shared, sharedAdded, collected⟩ := bind_ok collected
  obtain ⟨ownItems, ownRead, ownAdded⟩ := bind_ok collected
  rcases mem_addParameters ownAdded among with inShared | ⟨item, inside, read⟩
  · rcases mem_addParameters sharedAdded inShared with nothing | ⟨item, inside, read⟩
    · cases nothing
    · exact lists none itemAt rfl sharedRead inside read
  · rw [lower_of_mem method method.2] at read
    exact lists (some method) definitionAt rfl ownRead inside read

end Operations

/-- What is resolved together with an address stands where the address leads. -/
theorem leadsTo_resolved (addressable : IsAddressable spec)
    (spells : Spells text names) (reached : spec.at? (names.map .name) = some node)
    (read : resolveWithAddress spec node text = .ok (some (defined, address))) :
    ∃ names, Spells address names ∧ spec.at? (names.map .name) = some (.object defined) := by
  cases node with
  | object members =>
      rw [resolveWithAddress] at read
      split at read
      · cases read
        exact ⟨names, spells, reached⟩
      · rename_i reference held
        have direct := addressable.references members (Node.mem_objects_of_at? reached)
          (Members.has_iff.mpr (List.mem_map_of_mem (Members.mem_of_lookup held)))
        obtain ⟨reference, names, target, text, refers, built, spells, targetAt, ends⟩ :=
          direct.resolves
        cases held.symm.trans refers
        simp only [referenceAddress?, built, ends, bind, Except.bind, Except.toOption,
          Option.bind_some, Node.members?] at read
        cases read
        exact ⟨names, spells, targetAt⟩
  | _ => cases read

theorem leadsTo_responseSchema {pathKey : Key} (addressable : IsAddressable (.object root))
    (source : IsOperation (.object root) root pathKey key operation)
    (read : responseSchema? (.object root) operation code = .ok (some (schema, address))) :
    LeadsTo (.object root) address (.object schema) := by
  obtain ⟨method, rfl⟩ := addressable.key_eq source
  obtain ⟨response, defined, text, content, mediaType, media, declared, responseAt, followed,
    contentHeld, -, mediaHeld, held, read⟩ := responseSchema?_declared
      (source.definitionAt addressable.named) addressable.named read
  have responseSpells := Spells.ofResponse source.isMethod operation.path code
  rw [← source.method, lower_of_mem method method.2] at responseSpells
  obtain ⟨names, spells, placed⟩ := addressable.leadsTo_resolved responseSpells responseAt followed
  have contentAt := (Node.at?_member placed "content").trans contentHeld
  have mediaAt := (Node.at?_member contentAt mediaType).trans mediaHeld
  have schemaAt := (Node.at?_member mediaAt "schema").trans held
  obtain ⟨names, spells, schemaAt⟩ := addressable.leadsTo_resolved (spells.contentSchema mediaType)
    (by simpa using schemaAt) read
  exact spells.leadsTo schemaAt

end IsAddressable

/-- Every operation that is read from an addressable document, each of its parameters and the schema
of each of its responses stands in the document where the address that comes with it leads. -/
theorem found_addresses_lead_back (addressable : IsAddressable spec)
    (read : operationsOf spec = .ok operations) (among : operation ∈ operations) :
    LeadsTo spec operation.address (.object operation.definition) ∧
      (∀ parameter ∈ operation.parameters,
        LeadsTo spec parameter.address (.object parameter.definition)) ∧
      ∀ code schema address, responseSchema? spec operation code = .ok (some (schema, address)) →
        LeadsTo spec address (.object schema) := by
  obtain ⟨root, rooted, _⟩ := bind_ok read
  cases asObject_ok rooted
  obtain ⟨pathKey, key, source⟩ := mem_operationsOf read among
  exact ⟨addressable.leadsTo_operation source, fun _ => addressable.leadsTo_parameters source,
    fun _ _ _ => addressable.leadsTo_responseSchema source⟩

/-- Two parameters of a path that differ in their locations. -/
def sharedParameters : List Node :=
  [.object [(.str "name", .str "it's"), (.str "in", .str "query")],
    .object [(.str "in", .str "header"), (.str "name", .str "it's")]]

/-- An operation with a parameter, a response and a schema behind references. -/
def referringOperation : Members :=
  [(.str "parameters", .list [.object [(.str "$ref", .str "#/components/Page")]]),
    (.str "responses", .object [(.str "200", .object [(.str "$ref", .str "#/components/Found")])])]

def referringItem : Members :=
  [(.str "parameters", .list sharedParameters), (.str "get", .object referringOperation)]

def referringDocument : Node :=
  .object [
    (.str "paths", .object [(.str "/a'b", .object referringItem)]),
    (.str "components", .object [
      (.str "Page", .object [(.str "name", .str "page"), (.str "in", .str "query")]),
      (.str "Found", .object [(.str "content", .object [(.str "text/x", .object [
        (.str "schema", .object [(.str "$ref", .str "#/components/Shape~1Flat")])])])]),
      (.str "Shape/Flat", .object [(.str "type", .str "object")])])]

theorem tellsApart_sharedParameters : TellsApart sharedParameters where
  described := by
    intro members among _ _
    simp only [sharedParameters, List.mem_cons, List.not_mem_nil, or_false, Node.object.injEq]
      at among
    rcases among with rfl | rfl
    · exact ⟨_, "query", by decide, _, rfl, rfl, rfl⟩
    · exact ⟨_, "header", by decide, _, rfl, rfl, rfl⟩
  apart := by
    refine List.pairwise_pair.mpr ?_
    rintro name location ⟨_, ⟨⟩, -, query⟩ ⟨_, ⟨⟩, -, header⟩
    cases query
    exact absurd (Node.str.inj (Option.some.inj header)) (by decide)

theorem isAddressable_referringDocument : IsAddressable referringDocument := by
  have onlyItem : ∀ path pathItem,
      referringDocument.at? [.name "paths", .name path] = some pathItem →
        pathItem = .object referringItem := by
    intro path pathItem found
    have pathsAt : referringDocument.at? [.name "paths"] =
        some (.object [(.str "/a'b", .object referringItem)]) := rfl
    have held := Members.mem_of_lookup ((Node.at?_member pathsAt path).symm.trans found)
    exact (Prod.mk.inj (List.mem_singleton.mp held)).2
  refine ⟨by decide +kernel, ?_, ?_, ?_⟩
  · intro path pathItem key value found among isMethod
    cases onlyItem path _ found
    simp only [referringItem, List.mem_cons, List.not_mem_nil, or_false, Prod.mk.injEq,
      Key.str.injEq] at among
    rcases among with ⟨rfl, -⟩ | ⟨rfl, -⟩
    · exact absurd isMethod (by decide)
    · decide
  · intro members among refers
    have references : referringDocument.objects.filter (Members.has · "$ref") =
        [[(.str "$ref", .str "#/components/Page")], [(.str "$ref", .str "#/components/Found")],
          [(.str "$ref", .str "#/components/Shape~1Flat")]] := by rfl
    have listed : members ∈ referringDocument.objects.filter (Members.has · "$ref") :=
      List.mem_filter.mpr ⟨among, refers⟩
    rw [references] at listed
    simp only [List.mem_cons, List.not_mem_nil, or_false] at listed
    rcases listed with rfl | rfl | rfl
    · exact ⟨_, ["components", "Page"], _, rfl, by decide +kernel, by decide, rfl, rfl⟩
    · exact ⟨_, ["components", "Found"], _, rfl, by decide +kernel, by decide, rfl, rfl⟩
    · exact ⟨_, ["components", "Shape/Flat"], _, rfl, by decide +kernel, by decide, rfl, rfl⟩
  · intro path method? items listed
    rw [parameterNames, List.append_assoc, List.map_append, Node.at?_append] at listed
    obtain ⟨pathItem, found, listed⟩ := Option.bind_eq_some_iff.mp listed
    cases onlyItem path _ found
    cases method? with
    | none =>
        cases listed
        exact tellsApart_sharedParameters
    | some method =>
        obtain ⟨value, held, listed⟩ := Option.bind_eq_some_iff.mp listed
        have among : (Key.str method.val, value) ∈ referringItem := Members.mem_of_lookup held
        simp only [referringItem, List.mem_cons, List.not_mem_nil, or_false, Prod.mk.injEq,
          Key.str.injEq] at among
        rcases among with ⟨same, -⟩ | ⟨-, rfl⟩
        · exact absurd (same ▸ method.2) (by decide)
        · cases listed
          refine ⟨fun members among free _ => ?_, List.pairwise_singleton _ _⟩
          cases List.mem_singleton.mp among
          cases free

theorem found_addresses_lead_back_referring :
    ∃ operation, operationsOf referringDocument = .ok [operation] ∧
      operation.parameters.map (·.address) =
        ["$.paths['/a\\'b'].parameters[?(@.name=='it\\'s' & @.in=='query')]",
          "$.paths['/a\\'b'].parameters[?(@.name=='it\\'s' & @.in=='header')]",
          "$.components['Page']"] ∧
      LeadsTo referringDocument operation.address (.object referringOperation) ∧
      (∀ parameter ∈ operation.parameters,
        LeadsTo referringDocument parameter.address (.object parameter.definition)) ∧
      LeadsTo referringDocument "$.components['Shape/Flat']"
        (.object [(.str "type", .str "object")]) := by
  have read : operationsOf referringDocument = .ok [⟨"/a'b", "GET", referringOperation,
      referringItem, [
        ⟨"it's", .str "query", [(.str "name", .str "it's"), (.str "in", .str "query")],
          "$.paths['/a\\'b'].parameters[?(@.name=='it\\'s' & @.in=='query')]", none⟩,
        ⟨"it's", .str "header", [(.str "in", .str "header"), (.str "name", .str "it's")],
          "$.paths['/a\\'b'].parameters[?(@.name=='it\\'s' & @.in=='header')]", none⟩,
        ⟨"page", .str "query", [(.str "name", .str "page"), (.str "in", .str "query")],
          "$.components['Page']", some "#/components/Page"⟩]⟩] := by rfl
  obtain ⟨own, parameters, schemas⟩ := found_addresses_lead_back isAddressable_referringDocument
    read (List.mem_singleton.mpr rfl)
  exact ⟨_, read, rfl, own, parameters, schemas "200" _ _ (by rfl)⟩

end ApiReview
