import ApiReview.Proofs.Node.Named
import ApiReview.Proofs.Spec.Operations

/-! An operation before and after an edit. In a document whose keys are names, and
whose path items have no two keys equal up to letter case, the location of an
operation tells the one place in the document where it stands; so what an edit
puts there is what the operation of that location reads as afterwards. -/

set_option autoImplicit false

namespace ApiReview

open ApiReview.Text

/-- The names of members in lower case. -/
def Members.loweredNames (members : Members) : List String :=
  members.filterMap fun (key, _) =>
    match key with
    | .str name => some (lower name)
    | _ => none

/-- Whether no path item of a document has two keys that are equal up to letter case. -/
def hasDistinctMethods (spec : Node) : Bool :=
  (pathItems (spec.members?.getD [])).all fun (_, item) =>
    item.members?.all fun pathItem => decide (Members.loweredNames pathItem).Nodup

variable {root pathItem members : Members} {pathKey : Key} {key name other path : String}
  {operation later : Operation} {operations : List Operation} {value held after : Node}

theorem Members.lower_mem_loweredNames (present : (.str name, value) ∈ members) :
    lower name ∈ loweredNames members :=
  List.mem_filterMap.mpr ⟨(.str name, value), present, rfl⟩

theorem Members.eq_of_loweredNames (distinct : (loweredNames members).Nodup)
    (present : (.str name, value) ∈ members) (another : (.str other, held) ∈ members)
    (same : lower name = lower other) : name = other := by
  induction members with
  | nil => cases present
  | cons first rest ih =>
      have distinctRest : (loweredNames rest).Nodup :=
        distinct.sublist (List.Sublist.filterMap _ (List.sublist_cons_self first rest))
      rcases List.mem_cons.mp present with here | present
      · rcases List.mem_cons.mp another with there | another
        · rw [← here] at there
          cases there
          rfl
        · rw [← here] at distinct
          have fresh : lower name ∉ loweredNames rest := (List.nodup_cons.mp distinct).1
          exact absurd (same ▸ lower_mem_loweredNames another) fresh
      · rcases List.mem_cons.mp another with there | another
        · rw [← there] at distinct
          have fresh : lower other ∉ loweredNames rest := (List.nodup_cons.mp distinct).1
          exact absurd (same ▸ lower_mem_loweredNames present) fresh
        · exact ih distinctRest present another

theorem distinct_of_hasDistinctMethods (distinct : hasDistinctMethods (.object root) = true)
    (listed : (pathKey, .object pathItem) ∈ pathItems root) :
    (Members.loweredNames pathItem).Nodup := by
  have every := List.all_eq_true.mp distinct _ listed
  simpa [Node.members?] using every

/-! ## Path items -/

theorem exists_paths_of_mem (listed : (pathKey, value) ∈ pathItems root) :
    ∃ paths, Members.get? root "paths" = some (.object paths) ∧ pathItems root = paths := by
  rw [pathItems] at listed ⊢
  cases found : Members.get? root "paths" with
  | none =>
      rw [found] at listed
      cases listed
  | some node =>
      rw [found] at listed
      cases node with
      | object paths => exact ⟨paths, rfl, rfl⟩
      | _ => cases listed

theorem pathItems_of_get? {paths : Members}
    (found : Members.get? root "paths" = some (.object paths)) : pathItems root = paths := by
  rw [pathItems, found]
  rfl

theorem isNamed_pathItem (named : (Node.object root).isNamed = true)
    (listed : (pathKey, value) ∈ pathItems root) :
    (∃ name, pathKey = .str name) ∧ value.isNamed = true := by
  obtain ⟨paths, found, shape⟩ := exists_paths_of_mem listed
  rw [shape] at listed
  exact Node.isNamed_of_mem (Node.isNamed_of_get? named found) listed

/-- A path item of a named document stands under its path. -/
theorem at?_pathItem (named : (Node.object root).isNamed = true)
    (listed : (.str path, value) ∈ pathItems root) :
    (Node.object root).at? [.name "paths", .name path] = some value := by
  obtain ⟨paths, found, shape⟩ := exists_paths_of_mem listed
  rw [shape] at listed
  have distinct := Node.distinct_of_isNamed (Node.isNamed_of_get? named found)
  have item : Members.get? paths path = some value := Members.lookup_of_mem distinct listed
  have paths_at : (Node.object root).part? (.name "paths") = some (.object paths) := found
  have item_at : (Node.object paths).part? (.name path) = some value := item
  rw [Node.at?_cons, paths_at, Option.bind_some, Node.at?_singleton, item_at]

theorem IsOperation.pathKey_eq (source : IsOperation (.object root) root pathKey key operation)
    (named : (Node.object root).isNamed = true) : pathKey = .str operation.path := by
  obtain ⟨⟨name, rfl⟩, _⟩ := isNamed_pathItem named source.listed
  rw [← source.path]
  rfl

/-- An operation of a named document stands under its path and key. -/
theorem IsOperation.at?_eq (source : IsOperation (.object root) root pathKey key operation)
    (named : (Node.object root).isNamed = true) :
    (Node.object root).at? [.name "paths", .name operation.path] =
        some (.object operation.pathItem) ∧
      Members.get? operation.pathItem key = some (.object operation.definition) := by
  have listed := source.listed
  rw [source.pathKey_eq named] at listed
  have distinct := Node.distinct_of_isNamed (isNamed_pathItem named listed).2
  exact ⟨at?_pathItem named listed, Members.lookup_of_mem distinct source.declared⟩

theorem IsOperation.definitionAt (source : IsOperation (.object root) root pathKey key operation)
    (named : (Node.object root).isNamed = true) : (Node.object root).at?
      [.name "paths", .name operation.path, .name key] = some (.object operation.definition) := by
  obtain ⟨itemAt, declared⟩ := source.at?_eq named
  have way : [Part.name "paths", .name operation.path, .name key] =
      [.name "paths", .name operation.path] ++ [.name key] := rfl
  rw [way, Node.at?_append_of_some itemAt, Node.at?_singleton]
  exact declared

/-- An object under a method of a path is an operation. -/
theorem exists_operation_of_at? {definition : Members}
    (read : operationsOf (.object root) = .ok operations)
    (found : (Node.object root).at? [.name "paths", .name path, .name key] =
      some (.object definition)) (method : isMethodKey key = true) :
    ∃ operation ∈ operations, IsOperation (.object root) root (.str path) key operation ∧
      operation.path = path ∧ operation.definition = definition := by
  obtain ⟨pathItem, itemAt, declared⟩ := Node.exists_object_of_member
    (show (Node.object root).at? ([.name "paths", .name path] ++ [.name key]) = _ from found)
  obtain ⟨paths, pathsAt, listed⟩ := Node.exists_object_of_member
    (show (Node.object root).at? ([.name "paths"] ++ [.name path]) = _ from itemAt)
  rw [Node.at?_singleton] at pathsAt
  have inside : (.str path, .object pathItem) ∈ pathItems root := by
    rw [pathItems_of_get? pathsAt]
    exact Members.mem_of_lookup listed
  obtain ⟨operation, among, source, _, defined⟩ :=
    operationsOf_mem read inside (Members.mem_of_lookup declared) method
  exact ⟨operation, among, source, source.path.symm, defined⟩

/-- A path item has at most one key that is a method up to letter case. -/
theorem key_unique (distinct : hasDistinctMethods (.object root) = true)
    (first : (Node.object root).at? [.name "paths", .name path, .name key] = some value)
    (second : (Node.object root).at? [.name "paths", .name path, .name other] = some held)
    (same : lower key = lower other) : key = other := by
  obtain ⟨pathItem, itemAt, declared⟩ := Node.exists_object_of_member
    (show (Node.object root).at? ([.name "paths", .name path] ++ [.name key]) = _ from first)
  obtain ⟨again, againAt, declaredToo⟩ := Node.exists_object_of_member
    (show (Node.object root).at? ([.name "paths", .name path] ++ [.name other]) = _ from second)
  cases itemAt.symm.trans againAt
  obtain ⟨paths, pathsAt, listed⟩ := Node.exists_object_of_member
    (show (Node.object root).at? ([.name "paths"] ++ [.name path]) = _ from itemAt)
  rw [Node.at?_singleton] at pathsAt
  have inside : (.str path, .object pathItem) ∈ pathItems root := by
    rw [pathItems_of_get? pathsAt]
    exact Members.mem_of_lookup listed
  exact Members.eq_of_loweredNames (distinct_of_hasDistinctMethods distinct inside)
    (Members.mem_of_lookup declared) (Members.mem_of_lookup declaredToo) same

/-- What lies below an operation lies behind the operation's place. -/
theorem at?_below_operation {document found : Node} {method : String} {below : List String}
    (reached : document.at? (("paths" :: path :: method :: below).map .name) = some found) :
    ∃ held, document.at? [.name "paths", .name path, .name method] = some held ∧
      held.at? (below.map .name) = some found :=
  Node.at?_of_append reached

/-- What a path item has under the lower case form of an operation's key is the operation. -/
theorem IsOperation.eq_of_lower (source : IsOperation (.object root) root pathKey key operation)
    (named : (Node.object root).isNamed = true) (distinct : hasDistinctMethods (.object root) = true)
    (found : (Node.object root).at?
      [.name "paths", .name operation.path, .name (lower key)] = some value) :
    lower key = key ∧ value = .object operation.definition := by
  obtain ⟨itemAt, declared⟩ := source.at?_eq named
  have way : [Part.name "paths", .name operation.path, .name (lower key)] =
      [.name "paths", .name operation.path] ++ [.name (lower key)] := rfl
  rw [way, Node.at?_append_of_some itemAt, Node.at?_singleton] at found
  have read : Members.get? operation.pathItem (lower key) = some value := found
  have equal : lower key = key :=
    Members.eq_of_loweredNames (distinct_of_hasDistinctMethods distinct source.listed)
      (Members.mem_of_lookup read) source.declared (lower_lower_of_isMethodKey source.isMethod)
  rw [equal, declared] at read
  exact ⟨equal, (Option.some.inj read).symm⟩

/-! ## After an edit -/

/-- Putting a value under a name of a path item rebuilds the path item, the paths and the root. -/
theorem graft_in_pathItem (named : (Node.object root).isNamed = true)
    (listed : (.str path, .object pathItem) ∈ pathItems root) :
    Node.graft value [.name "paths", .name path, .name name] (.object root) =
      .object (Members.put (.str "paths") (.object (Members.put (.str path)
        (.object (Members.put (.str name) value pathItem)) (pathItems root))) root) := by
  obtain ⟨paths, found, shape⟩ := exists_paths_of_mem listed
  have itemAt := at?_pathItem named listed
  have pathsPart : (Node.object root).part? (.name "paths") = some (.object paths) := found
  rw [Node.at?_cons, pathsPart, Option.bind_some, Node.at?_singleton] at itemAt
  rw [Node.graft_cons, pathsPart, Option.getD_some, Node.graft_cons, itemAt, Option.getD_some,
    Node.graft_cons, shape]
  rfl

theorem mem_pathItems_of_graft {spec : Members} (named : (Node.object root).isNamed = true)
    (listed : (.str path, .object pathItem) ∈ pathItems root)
    (edited : Node.object spec =
      Node.graft value [.name "paths", .name path, .name name] (.object root)) :
    (.str path, .object (Members.put (.str name) value pathItem)) ∈ pathItems spec := by
  rw [graft_in_pathItem named listed] at edited
  rw [Node.object.inj edited, pathItems_of_get? Members.get?_put_self]
  exact Members.mem_of_lookup Members.lookup_put_self

/-- The path item of a path under whose name a value was put. -/
theorem pathItem_of_graft {spec laterItem : Members} {laterKey : Key}
    (named : (Node.object root).isNamed = true)
    (listed : (.str path, .object pathItem) ∈ pathItems root)
    (edited : Node.object spec =
      Node.graft value [.name "paths", .name path, .name name] (.object root))
    (laterListed : (laterKey, .object laterItem) ∈ pathItems spec)
    (samePath : laterKey.display = path) : laterItem = Members.put (.str name) value pathItem := by
  obtain ⟨paths, found, shape⟩ := exists_paths_of_mem listed
  have distinct : (Members.keys (pathItems root)).Nodup := by
    rw [shape]
    exact Node.distinct_of_isNamed (Node.isNamed_of_get? named found)
  rw [graft_in_pathItem named listed] at edited
  rw [Node.object.inj edited, pathItems_of_get? Members.get?_put_self] at laterListed
  rcases Members.mem_put distinct laterListed with ⟨_, same⟩ | ⟨different, present⟩
  · exact Node.object.inj same
  · obtain ⟨⟨laterName, rfl⟩, _⟩ := isNamed_pathItem named present
    exact absurd (congrArg Key.str samePath) different

/-- The operation at the location of another one, whose definition was put in its place. -/
theorem definition_of_graft {definition spec : Members}
    (source : IsOperation (.object root) root pathKey key operation)
    (named : (Node.object root).isNamed = true) (distinct : hasDistinctMethods (.object root) = true)
    (edited : Node.object spec = Node.graft (.object definition)
      [.name "paths", .name operation.path, .name key] (.object root))
    (read : operationsOf (.object spec) = .ok operations) (among : later ∈ operations)
    (sameLocation : later.location = operation.location) : later.definition = definition := by
  obtain ⟨laterPath, laterKey, laterSource⟩ := mem_operationsOf read among
  rw [Operation.location, Operation.location, laterSource.method, source.method] at sameLocation
  obtain ⟨sameMethod, samePath⟩ :=
    location_injective laterSource.isMethod source.isMethod sameLocation
  have listed := source.listed
  rw [source.pathKey_eq named] at listed
  have laterDeclared := laterSource.declared
  rw [pathItem_of_graft named listed edited laterSource.listed
    (laterSource.path.trans samePath)] at laterDeclared
  have itemDistinct := Node.distinct_of_isNamed (isNamed_pathItem named listed).2
  rcases Members.mem_put itemDistinct laterDeclared with ⟨_, same⟩ | ⟨different, present⟩
  · exact Node.object.inj same
  · have equal : laterKey = key :=
      Members.eq_of_loweredNames (distinct_of_hasDistinctMethods distinct source.listed) present
        source.declared sameMethod
    exact absurd (congrArg Key.str equal) different

/-- A value that was grafted below an operation: the operation at its location has the value there
and is otherwise as before. -/
theorem definition_of_graft_below {spec : Members} {field : String} {below : List String}
    (source : IsOperation (.object root) root pathKey key operation)
    (named : (Node.object root).isNamed = true) (distinct : hasDistinctMethods (.object root) = true)
    (found : (Node.object root).at?
      [.name "paths", .name operation.path, .name (lower key)] = some held)
    (edited : Node.object spec = Node.graft value
      (("paths" :: operation.path :: lower key :: field :: below).map .name) (.object root))
    (read : operationsOf (.object spec) = .ok operations) (among : later ∈ operations)
    (sameLocation : later.location = operation.location) :
    later.definition = Members.put (.str field) (Node.graft value (below.map .name)
      ((Members.get? operation.definition field).getD (.object []))) operation.definition := by
  obtain ⟨lowered, rfl⟩ := source.eq_of_lower named distinct found
  have split : ("paths" :: operation.path :: lower key :: field :: below).map Part.name =
      [.name "paths", .name operation.path, .name (lower key)] ++ (field :: below).map .name := rfl
  rw [split, Node.graft_append, found, Option.getD_some, lowered] at edited
  exact definition_of_graft source named distinct edited read among sameLocation

end ApiReview
