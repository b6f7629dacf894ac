import ApiReview.Proofs.Spec.EditedOperation
import ApiReview.Proofs.Spec.ParameterLists
import ApiReview.Proofs.Spec.ReferenceChains

/-! Where the query parameters of an operation are declared. Of several declarations
of one name the last counts; the relations here name its place in the document and
that of its definition, which may lie behind references. -/

set_option autoImplicit false

namespace ApiReview

open ApiReview.Text

variable {document before after value item node : Node} {name path key : String}
  {method? : Option String} {place last way : List Part} {trail : List (List Part)}
  {parameter : Parameter} {parameters result start : List Parameter} {owner : Members}
  {items : List Node}

/-- The places of the items of a list. -/
def itemPlaces (document : Node) (place : List Part) : List (List Part) :=
  match document.at? place with
  | some (.list items) =>
    (List.range items.length).map fun index => place ++ [.position (.ofNat index)]
  | _ => []

/-- The places at which the parameters of an operation are declared, in order: those that its path
shares, then its own. -/
def declarationPlaces (document : Node) (path key : String) : List (List Part) :=
  itemPlaces document [.name "paths", .name path, .name "parameters"] ++
    itemPlaces document [.name "paths", .name path, .name key, .name "parameters"]

/-- What stands at a place declares a query parameter with a name. Its definition is at the end of
a chain of references. -/
structure DeclaresQuery (document : Node) (name : String) (place : List Part)
    (trail : List (List Part)) (last : List Part) : Prop where
  resolves : Resolves document referenceLimit place trail last
  named : ∃ node, document.at? (last ++ [.name "name"]) = some node ∧ node.display = name
  located : document.at? (last ++ [.name "in"]) = none ∨
    document.at? (last ++ [.name "in"]) = some (.str "query")

/-- The declaration of a query parameter that counts for an operation: none follows it. -/
structure LastQuery (document : Node) (path key name : String) (place : List Part)
    (trail : List (List Part)) (last : List Part) : Prop where
  declares : DeclaresQuery document name place trail last
  isLast : ∃ front back, declarationPlaces document path key = front ++ place :: back ∧
    ∀ later ∈ back, ∀ trail last, ¬ DeclaresQuery document name later trail last

/-! ## Items -/

/-- The definition of a query parameter is an object. -/
theorem DeclaresQuery.definition (declares : DeclaresQuery document name place trail last) :
    ∃ definition, document.at? last = some (.object definition) ∧
      ∃ node, Members.get? definition "name" = some node ∧ node.display = name ∧
        (Members.get? definition "in").getD (.str "query") = .str "query" := by
  obtain ⟨named, held, display⟩ := declares.named
  obtain ⟨node, reached, stepped⟩ := Node.at?_of_append held
  rw [Node.at?_singleton] at stepped
  cases node with
  | object definition =>
      refine ⟨definition, reached, named, stepped, display, ?_⟩
      have located := declares.located
      rw [Node.at?_member reached] at located
      rcases located with missing | query
      · rw [show Members.get? definition "in" = none from missing]
        rfl
      · rw [show Members.get? definition "in" = some (.str "query") from query]
        rfl
  | _ => cases stepped

/-- An item that declares a query parameter stands at a place that does. -/
theorem exists_declaresQuery (found : document.at? place = some item)
    (read : parameter? document path method? item = .ok (some parameter))
    (placed : parameter.isAt name "query") :
    ∃ trail last, DeclaresQuery document name place trail last ∧
      document.at? last = some (.object parameter.definition) := by
  obtain ⟨members, nameNode, rfl, resolved, named, display, location, _⟩ := parameter?_ok read
  obtain ⟨trail, last, resolves, ends⟩ := exists_resolves found resolved
  refine ⟨trail, last, ⟨resolves, ⟨nameNode, ?_, display.symm.trans placed.1⟩, ?_⟩, ends⟩
  · rw [Node.at?_member ends]
    exact named
  · rw [Node.at?_member ends]
    show Members.get? parameter.definition "in" = none ∨
      Members.get? parameter.definition "in" = some (.str "query")
    have query := location.symm.trans placed.2
    cases written : Members.get? parameter.definition "in" with
    | none => exact .inl rfl
    | some held =>
        rw [written] at query
        exact .inr (congrArg some query)

/-- An item at a place that declares a query parameter is read as one. -/
theorem DeclaresQuery.parameter?_eq (declares : DeclaresQuery document name place trail last)
    (found : document.at? place = some item) (path : String) (method? : Option String) :
    ∃ parameter, parameter? document path method? item = .ok (some parameter) ∧
      parameter.isAt name "query" ∧ document.at? last = some (.object parameter.definition) := by
  obtain ⟨definition, ends, nameNode, named, display, located⟩ := declares.definition
  have resolved := declares.resolves.resolve?_eq found ends
  cases item with
  | object members =>
      obtain ⟨parameter, read, sameName, location, rfl⟩ := parameter?_of_resolve resolved named
      exact ⟨parameter, read, ⟨sameName.trans display, location.trans located⟩, ends⟩
  | _ =>
      rw [referenceLimit, resolve?] at resolved
      cases resolved

/-! ## Lists of declarations -/

theorem forall₂_split {First Second : Type} {relation : First → Second → Prop}
    {front back : List First} {entry : First} {others : List Second}
    (aligned : List.Forall₂ relation (front ++ entry :: back) others) :
    ∃ before other behind, others = before ++ other :: behind ∧ relation entry other ∧
      List.Forall₂ relation back behind := by
  induction front generalizing others with
  | nil =>
      cases aligned with
      | cons first rest => exact ⟨[], _, _, rfl, first, rest⟩
  | cons head front ih =>
      cases aligned with
      | cons first rest =>
          obtain ⟨before, other, behind, rfl, related, remaining⟩ := ih rest
          exact ⟨_ :: before, other, behind, rfl, related, remaining⟩

theorem exists_of_forall₂ {First Second : Type} {relation : First → Second → Prop}
    {entries : List First} {others : List Second} (aligned : List.Forall₂ relation entries others)
    {other : Second} (among : other ∈ others) : ∃ entry ∈ entries, relation entry other := by
  induction aligned with
  | nil => cases among
  | cons first rest ih =>
      rcases List.mem_cons.mp among with rfl | among
      · exact ⟨_, List.mem_cons_self, first⟩
      · obtain ⟨entry, inside, related⟩ := ih among
        exact ⟨entry, List.mem_cons_of_mem _ inside, related⟩

theorem itemPlaces_aligned (found : document.at? place = some (.list items)) :
    List.Forall₂ (fun place item => document.at? place = some item) (itemPlaces document place)
      items := by
  rw [itemPlaces, found]
  refine List.forall₂_iff_get.mpr ⟨by simp, fun index _ bound => ?_⟩
  have read : items[index]? = some items[index] := List.getElem?_eq_getElem bound
  simp only [List.get_eq_getElem, List.getElem_map, List.getElem_range]
  rw [Node.at?_append_of_some found, Node.at?_singleton]
  exact read

/-- The items of an owner's parameter list are those at the places of its items; where it has no
list, nothing is declared. -/
theorem parameterItems_ok (found : document.at? place = some (.object owner))
    (read : parameterItems owner = .ok items) :
    List.Forall₂ (fun place item => document.at? place = some item)
        (itemPlaces document (place ++ [.name "parameters"])) items ∨
      (itemPlaces document (place ++ [.name "parameters"]) = [] ∧
        ∀ item ∈ items, item.isObject = false) := by
  have held : document.at? (place ++ [.name "parameters"]) = Members.get? owner "parameters" := by
    rw [Node.at?_member found]
    rfl
  rw [parameterItems] at read
  cases listed : Members.get? owner "parameters" with
  | none =>
      rw [listed] at read
      cases read
      exact .inr ⟨by rw [itemPlaces, held, listed], fun _ among => absurd among List.not_mem_nil⟩
  | some node =>
      rw [listed] at read
      cases node with
      | list entries =>
          have same : items = entries := by
            cases entries with
            | nil => exact (Except.ok.inj read).symm
            | cons first rest => exact (Except.ok.inj read).symm
          exact .inl (same ▸ itemPlaces_aligned (held.trans listed))
      | object entries =>
          refine .inr ⟨by rw [itemPlaces, held, listed], fun item among => ?_⟩
          simp only at read
          split at read
          · cases read
            obtain ⟨⟨key, value⟩, _, rfl⟩ := List.mem_map.mp among
            cases key <;> rfl
          · cases read
            cases among
      | str text =>
          refine .inr ⟨by rw [itemPlaces, held, listed], fun item among => ?_⟩
          simp only at read
          split at read
          · cases read
            obtain ⟨char, _, rfl⟩ := List.mem_map.mp among
            rfl
          · cases read
            cases among
      | _ =>
          refine .inr ⟨by rw [itemPlaces, held, listed], fun item among => ?_⟩
          simp only at read
          split at read
          · cases read
          · cases read
            cases among

theorem exists_place (found : document.at? place = some (.object owner))
    (read : parameterItems owner = .ok items) (among : item ∈ items)
    (declares : parameter? document path method? item = .ok (some parameter)) :
    ∃ other ∈ itemPlaces document (place ++ [.name "parameters"]), document.at? other = some item := by
  rcases parameterItems_ok found read with aligned | ⟨_, scalar⟩
  · exact exists_of_forall₂ aligned among
  · obtain ⟨members, _, rfl, _⟩ := parameter?_ok declares
    cases scalar _ among

/-- Places that declare nothing stand for items that declare nothing. -/
theorem not_isAt_of_places (found : document.at? place = some (.object owner))
    (read : parameterItems owner = .ok items)
    (none_declared : ∀ other ∈ itemPlaces document (place ++ [.name "parameters"]),
      ∀ trail last, ¬ DeclaresQuery document name other trail last)
    {declared : Parameter} (among : item ∈ items)
    (declares : parameter? document path method? item = .ok (some declared)) :
    ¬ declared.isAt name "query" := by
  intro placed
  obtain ⟨other, inside, reached⟩ := exists_place found read among declares
  obtain ⟨trail, last, query, _⟩ := exists_declaresQuery reached declares placed
  exact none_declared other inside trail last query

/-- The last place of a list that declares a query parameter tells which one counts. -/
theorem onlyAt_of_place {front back : List (List Part)}
    (found : document.at? place = some (.object owner))
    (read : parameterItems owner = .ok items)
    (added : addParameters document path method? start items = .ok result)
    {declared : List Part}
    (split : itemPlaces document (place ++ [.name "parameters"]) = front ++ declared :: back)
    (declares : DeclaresQuery document name declared trail last)
    (isLast : ∀ later ∈ back, ∀ trail last, ¬ DeclaresQuery document name later trail last) :
    ∃ parameter, OnlyAt name "query" result parameter ∧
      document.at? last = some (.object parameter.definition) := by
  rcases parameterItems_ok found read with aligned | ⟨empty, _⟩
  · rw [split] at aligned
    obtain ⟨earlier, item, later, rfl, reached, remaining⟩ := forall₂_split aligned
    obtain ⟨parameter, described, placed, ends⟩ := declares.parameter?_eq reached path method?
    refine ⟨parameter, onlyAt_of_last added described placed ?_, ends⟩
    intro other among another again placedToo
    obtain ⟨behind, inside, reachedToo⟩ := exists_of_forall₂ remaining among
    obtain ⟨trail, last, query, _⟩ := exists_declaresQuery reachedToo again placedToo
    exact isLast behind inside trail last query
  · rw [empty] at split
    simp at split

theorem exists_last_of_exists {Entry : Type} {entries : List Entry} {entry : Entry}
    (property : Entry → Prop) (among : entry ∈ entries) (holds : property entry) :
    ∃ front last back, entries = front ++ last :: back ∧ property last ∧
      ∀ later ∈ back, ¬ property later := by
  induction entries generalizing entry with
  | nil => cases among
  | cons first rest ih =>
      by_cases behind : ∃ later ∈ rest, property later
      · obtain ⟨later, inside, holdsToo⟩ := behind
        obtain ⟨front, last, back, rfl, lastHolds, isLast⟩ := ih inside holdsToo
        exact ⟨first :: front, last, back, rfl, lastHolds, isLast⟩
      · rcases List.mem_cons.mp among with rfl | among
        · exact ⟨[], entry, rest, rfl, holds, fun later inside holdsToo =>
            behind ⟨later, inside, holdsToo⟩⟩
        · exact absurd ⟨entry, among, holds⟩ behind

theorem LastQuery.unique {another other : List Part} {passed : List (List Part)}
    (counts : LastQuery document path key name place trail last)
    (again : LastQuery document path key name another passed other) : other = last := by
  obtain ⟨front, back, split, isLast⟩ := counts.isLast
  obtain ⟨frontToo, backToo, splitToo, isLastToo⟩ := again.isLast
  have samePlace : another = place := by
    rcases List.append_eq_append_iff.mp (split.symm.trans splitToo) with
      ⟨between, _, tails⟩ | ⟨between, _, tails⟩
    · cases between with
      | nil => exact (List.cons.inj tails).1.symm
      | cons first rest =>
          have behind : another ∈ back := by
            rw [(List.cons.inj tails).2]
            exact List.mem_append_right _ List.mem_cons_self
          exact absurd again.declares (isLast another behind passed other)
    · cases between with
      | nil => exact (List.cons.inj tails).1
      | cons first rest =>
          have behind : place ∈ backToo := by
            rw [(List.cons.inj tails).2]
            exact List.mem_append_right _ List.mem_cons_self
          exact absurd counts.declares (isLastToo place behind trail last)
  subst samePlace
  exact (counts.declares.resolves.unique again.declares.resolves).2

/-! ## Operations -/

section Operations

variable {root : Members} {pathKey : Key} {operation : Operation}
  (source : IsOperation (.object root) root pathKey key operation)
  (named : (Node.object root).isNamed = true)

include source named

/-- The declaration that counts is that of the operation's only parameter with its name. -/
theorem LastQuery.onlyAt
    (counts : LastQuery (.object root) operation.path key name place trail last) :
    ∃ parameter, OnlyAt name "query" operation.parameters parameter ∧
      (Node.object root).at? last = some (.object parameter.definition) := by
  obtain ⟨itemAt, _⟩ := source.at?_eq named
  have definitionAt := source.definitionAt named
  obtain ⟨sharedItems, sharedRead, collected⟩ := bind_ok source.parameters
  obtain ⟨shared, sharedAdded, collected⟩ := bind_ok collected
  obtain ⟨ownItems, ownRead, ownAdded⟩ := bind_ok collected
  obtain ⟨front, back, split, isLast⟩ := counts.isLast
  rw [declarationPlaces] at split
  rcases List.append_eq_append_iff.mp split with ⟨rest, rfl, own⟩ | ⟨rest, inShared, rejoined⟩
  · exact onlyAt_of_place definitionAt ownRead ownAdded own counts.declares isLast
  · cases rest with
    | nil =>
        have own : itemPlaces (.object root)
            [.name "paths", .name operation.path, .name key, .name "parameters"] =
              [] ++ place :: back := rejoined.symm
        exact onlyAt_of_place definitionAt ownRead ownAdded own counts.declares isLast
    | cons first rest =>
        obtain ⟨rfl, rfl⟩ := List.cons.inj rejoined
        obtain ⟨parameter, alone, ends⟩ := onlyAt_of_place itemAt sharedRead sharedAdded inShared
          counts.declares fun later among => isLast later (List.mem_append_left _ among)
        refine ⟨parameter, alone.addParameters ownAdded ?_, ends⟩
        intro item among declared declares
        exact not_isAt_of_places definitionAt ownRead
          (fun other inside => isLast other (List.mem_append_right _ inside)) among declares

/-- Every parameter of an operation is read from an item at one of the places of its declarations. -/
theorem exists_declaration (among : parameter ∈ operation.parameters) :
    ∃ declared ∈ declarationPlaces (.object root) operation.path key, ∃ item method?,
      (Node.object root).at? declared = some item ∧ (method? = none ∨ method? = some (lower key)) ∧
      parameter? (.object root) operation.path method? item = .ok (some parameter) := by
  obtain ⟨itemAt, _⟩ := source.at?_eq named
  have definitionAt := source.definitionAt named
  obtain ⟨sharedItems, sharedRead, collected⟩ := bind_ok source.parameters
  obtain ⟨shared, sharedAdded, collected⟩ := bind_ok collected
  obtain ⟨ownItems, ownRead, ownAdded⟩ := bind_ok collected
  rcases mem_addParameters ownAdded among with inShared | ⟨item, inside, read⟩
  · rcases mem_addParameters sharedAdded inShared with nothing | ⟨item, inside, read⟩
    · cases nothing
    · obtain ⟨declared, listed, reached⟩ := exists_place itemAt sharedRead inside read
      exact ⟨declared, List.mem_append_left _ listed, item, none, reached, .inl rfl, read⟩
  · obtain ⟨declared, listed, reached⟩ := exists_place definitionAt ownRead inside read
    exact ⟨declared, List.mem_append_right _ listed, item, _, reached, .inr rfl, read⟩

/-- Every query parameter of an operation has a declaration that counts. -/
theorem exists_lastQuery (among : parameter ∈ operation.parameters)
    (placed : parameter.isAt name "query") :
    ∃ place trail last, LastQuery (.object root) operation.path key name place trail last ∧
      (Node.object root).at? last = some (.object parameter.definition) := by
  obtain ⟨declared, listed, item, method?, reached, _, read⟩ :=
    exists_declaration source named among
  obtain ⟨trail, last, declares, _⟩ := exists_declaresQuery reached read placed
  obtain ⟨front, place, back, split, ⟨trail, last, declares⟩, isLast⟩ := exists_last_of_exists
    (fun place => ∃ trail last, DeclaresQuery (.object root) name place trail last) listed ⟨trail, last, declares⟩
  have counts : LastQuery (.object root) operation.path key name place trail last :=
    ⟨declares, front, back, split, fun later among trail last query =>
      isLast later among ⟨trail, last, query⟩⟩
  obtain ⟨only, alone, ends⟩ := counts.onlyAt source named
  exact ⟨place, trail, last, counts, alone.only parameter among placed ▸ ends⟩

end Operations

/-! ## After a value was put into the document -/

/-- Whether a text is not that of a list or an object. -/
def isScalarText (text : String) : Bool :=
  text.toList.head? != some '[' && text.toList.head? != some '\x7b'

/-- Nodes of one place are equal when the text of one of them is not that of a list or an object. -/
theorem eq_of_alike {first second : Node} (alike : Node.Alike first second)
    (scalar : isScalarText first.display = true ∨ isScalarText second.display = true) :
    first = second := by
  have brackets : ∀ items, isScalarText (Node.list items).display = false := by
    intro items
    simp [isScalarText, Node.display, Node.quoted]
  have braces : ∀ members, isScalarText (Node.object members).display = false := by
    intro members
    simp [isScalarText, Node.display, Node.quoted]
  cases alike with
  | same => rfl
  | objects =>
      rw [braces, braces] at scalar
      simp at scalar
  | lists =>
      rw [brackets, brackets] at scalar
      simp at scalar

/-- A graft leaves alone the members that declarations of parameters are read from. -/
structure SparesDeclarations (document : Node) (way : List Part) : Prop where
  references : document.Spares way "$ref"
  names : document.Spares way "name"
  locations : document.Spares way "in"
  lists : document.Spares way "parameters"

section Graft

variable (spares : SparesDeclarations before way) (value : Node)

include spares

theorem itemPlaces_graft (apart : ¬ way <+: place) :
    itemPlaces (Node.graft value way before) (place ++ [.name "parameters"]) =
      itemPlaces before (place ++ [.name "parameters"]) := by
  have alike := spares.lists.alike value apart
  rw [itemPlaces, itemPlaces]
  cases old : before.at? (place ++ [.name "parameters"]) with
  | none =>
      rw [(spares.lists.none_iff apart).mp old]
  | some first =>
      cases later : (Node.graft value way before).at? (place ++ [.name "parameters"]) with
      | none => simp [old, later] at alike
      | some second =>
          rw [old, later, Option.rel_some_some] at alike
          cases alike with
          | same => rfl
          | objects => rfl
          | lists count => simp only [count]

theorem declarationPlaces_graft
    (apart : ¬ way <+: [.name "paths", .name path, .name key]) :
    declarationPlaces (Node.graft value way before) path key = declarationPlaces before path key := by
  have above : ¬ way <+: [.name "paths", .name path] := fun inside =>
    apart (inside.trans ⟨[.name key], rfl⟩)
  have shared := itemPlaces_graft spares value above
  have own := itemPlaces_graft spares value apart
  simp only [List.cons_append, List.nil_append] at shared own
  rw [declarationPlaces, declarationPlaces, shared, own]

theorem DeclaresQuery.graft (declares : DeclaresQuery before name place trail last)
    (apart : ∀ other ∈ trail, ¬ way <+: other) (scalar : isScalarText name = true) :
    DeclaresQuery (Node.graft value way before) name place trail last := by
  have outside := apart last declares.resolves.last_mem
  refine ⟨declares.resolves.graft spares.references apart value, ?_, ?_⟩
  · obtain ⟨node, held, rfl⟩ := declares.named
    have alike := spares.names.alike value outside
    rw [held] at alike
    cases later : (Node.graft value way before).at? (last ++ [.name "name"]) with
    | none => simp [later] at alike
    | some found =>
        rw [later, Option.rel_some_some] at alike
        rw [eq_of_alike alike (.inl scalar)]
        exact ⟨found, rfl, rfl⟩
  · rw [← spares.locations.none_iff outside, ← spares.locations.text_iff outside]
    exact declares.located

theorem DeclaresQuery.of_graft
    (declares : DeclaresQuery (Node.graft value way before) name place trail last)
    (opened : before.isOpen way = true) (scalar : isScalarText name = true)
    (quiet : ∀ below inner, value.at? below = some inner →
      inner.get? "$ref" = none ∧ inner.get? "name" = none) :
    DeclaresQuery before name place trail last := by
  obtain ⟨node, held, rfl⟩ := declares.named
  obtain ⟨resolves, apart⟩ := declares.resolves.of_graft opened spares.references spares.names quiet
    (by rw [held]; exact Option.some_ne_none node)
  have outside := apart last resolves.last_mem
  refine ⟨resolves, ?_, ?_⟩
  · have alike := spares.names.alike value outside
    rw [held] at alike
    cases old : before.at? (last ++ [.name "name"]) with
    | none => simp [old] at alike
    | some found =>
        rw [old, Option.rel_some_some] at alike
        rw [← eq_of_alike alike (.inr scalar)]
        exact ⟨found, rfl, rfl⟩
  · rw [spares.locations.none_iff outside, spares.locations.text_iff outside]
    exact declares.located

/-- The declaration that counts stays when a value is put outside of its places. -/
theorem LastQuery.graft (counts : LastQuery before path key name place trail last)
    (opened : before.isOpen way = true)
    (outside : ¬ way <+: [.name "paths", .name path, .name key])
    (apart : ∀ other ∈ trail, ¬ way <+: other) (scalar : isScalarText name = true)
    (quiet : ∀ below inner, value.at? below = some inner →
      inner.get? "$ref" = none ∧ inner.get? "name" = none) :
    LastQuery (Node.graft value way before) path key name place trail last where
  declares := counts.declares.graft spares value apart scalar
  isLast := by
    obtain ⟨front, back, split, isLast⟩ := counts.isLast
    refine ⟨front, back, (declarationPlaces_graft spares value outside).trans split, ?_⟩
    exact fun later among trail last declares =>
      isLast later among trail last (declares.of_graft spares value opened scalar quiet)

end Graft

end ApiReview
