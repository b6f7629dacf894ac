import ApiReview.Proofs.Fix.Confinement
import ApiReview.Proofs.Patch.Renaming
import ApiReview.Rules.ResourceNames

/-! What the renaming of a path parameter makes of a document. The path takes its new
name in its place. Then the declarations are renamed one after the other, each by its
position in a list that is found under the new path; since no position moves, the
whole of it comes to a renaming of every declaration in the lists of the path item. -/

set_option autoImplicit false

namespace ApiReview

open ApiReview.Address ApiReview.Text ApiReview.Rules

variable {document source after : Node} {path name : String} {method? : Option String}
  {index : Nat} {items done rest : List Node} {members owner item : Members}
  {definitions : List String} {way front : List Part}

/-! ## Renamed declarations -/

/-- A declaration of the path parameter `id` with another name. References and all other items stay
as they are. -/
def renamedDeclaration (name : String) : Node → Node
  | .object members =>
    if !Members.has members "$ref" && declaresId members then
      .object (Members.put (.str "name") (.str name) members)
    else .object members
  | item => item

/-- An object with the declarations of its parameter list renamed. -/
def renamedDeclarations (name : String) (owner : Members) : Members :=
  match Members.get? owner "parameters" with
  | some (.list items) =>
    Members.put (.str "parameters") (.list (items.map (renamedDeclaration name))) owner
  | _ => owner

/-- A member of a path item with the declarations renamed if it is an operation. -/
def renamedOperation (name : String) : Key × Node → Key × Node
  | (.str method, .object operation) =>
    if httpMethods.contains (lower method) then
      (.str method, .object (renamedDeclarations name operation))
    else (.str method, .object operation)
  | member => member

/-- A path item with the declarations renamed in its own list and in those of its operations. -/
def renamedItem (name : String) (item : Members) : Members :=
  (renamedDeclarations name item).map (renamedOperation name)

/-- The keys of the operations of a path item are in lower case. -/
def HasLowerMethods (item : Members) : Prop :=
  ∀ method value, (.str method, value) ∈ item → isMethodKey method = true → lower method = method

/-- Only the list of an owner is another one after the renaming. -/
theorem renamedDeclarations_shape (name : String) (owner : Members) :
    renamedDeclarations name owner = owner ∨ ∃ front old new back,
      owner = front ++ (.str "parameters", old) :: back ∧
        renamedDeclarations name owner = front ++ (.str "parameters", new) :: back := by
  unfold renamedDeclarations
  split
  · rename_i items held
    obtain ⟨front, back, rfl, absent⟩ := Members.exists_split held
    exact .inr ⟨front, _, _, back, rfl, Members.put_append_cons absent⟩
  · exact .inl rfl

/-! ## Collected declarations -/

section Collected

variable {list : String} {position : Nat} {first : Node}

/-- An item of a list is passed over, or it is a declaration and its address is collected. -/
theorem idDefinitions?_cons_ok (name : String)
    (collected : idDefinitions? source list position (first :: rest) = .ok (some definitions)) :
    (renamedDeclaration name first = first ∧
      idDefinitions? source list (position + 1) rest = .ok (some definitions)) ∨
    ∃ members more, first = .object members ∧
      renamedDeclaration name first = .object (Members.put (.str "name") (.str name) members) ∧
      definitions = (list ++ Address.item position) :: more ∧
      idDefinitions? source list (position + 1) rest = .ok (some more) := by
  cases first with
  | object members =>
      rw [idDefinitions?] at collected
      split at collected
      · rename_i refers
        left
        obtain ⟨target?, -, collected⟩ := bind_ok collected
        dsimp only at collected
        split at collected
        · cases collected
        · exact ⟨by simp [renamedDeclaration, refers], collected⟩
      · rename_i inline
        obtain ⟨more?, later, collected⟩ := bind_ok collected
        split at collected
        · rename_i declares
          obtain ⟨more, rfl, rfl⟩ := Option.map_eq_some_iff.mp (Except.ok.inj collected)
          exact .inr ⟨members, more, rfl, by simp [renamedDeclaration, inline, declares], rfl, later⟩
        · rename_i other
          cases collected
          exact .inl ⟨by simp [renamedDeclaration, other], later⟩
  | _ => exact .inl ⟨rfl, collected⟩

/-- Where declarations were collected, no reference in the list comes to the path parameter. -/
theorem not_declaresId_of_idDefinitions? {shared : Members}
    (collected : idDefinitions? source list position items = .ok (some definitions))
    (among : .object members ∈ items) (refers : Members.has members "$ref" = true)
    (resolved : resolve? source referenceLimit (.object members) = .ok (some (.object shared))) :
    declaresId shared = false := by
  induction items generalizing position definitions with
  | nil => cases among
  | cons first rest ih =>
      rcases List.mem_cons.mp among with rfl | behind
      · rw [idDefinitions?, if_pos refers, resolved] at collected
        cases declares : declaresId shared with
        | false => rfl
        | true => simp [bind, Except.bind, Node.members?, declares] at collected
      · rcases idDefinitions?_cons_ok "" collected with ⟨-, later⟩ | ⟨-, more, -, -, -, later⟩
        · exact ih later behind
        · exact ih later behind

theorem idDefinitions?_of_no_object (plain : ∀ members, .object members ∉ items)
    (collected : idDefinitions? source list position items = .ok (some definitions)) :
    definitions = [] := by
  induction items generalizing position with
  | nil =>
      cases collected
      rfl
  | cons first rest ih =>
      rcases idDefinitions?_cons_ok "" collected with ⟨-, later⟩ | ⟨members, -, rfl, -⟩
      · exact ih (fun members among => plain members (List.mem_cons_of_mem _ among)) later
      · exact absurd List.mem_cons_self (plain members)

/-- The items of an owner are those of its list. Where the owner has something else in the place of
a list, no item is an object. -/
theorem parameterItems_shape (name : String) (read : parameterItems owner = .ok items) :
    Members.get? owner "parameters" = some (.list items) ∨
      (renamedDeclarations name owner = owner ∧ ∀ members, .object members ∉ items) := by
  rw [parameterItems] at read
  cases held : Members.get? owner "parameters" with
  | none =>
      rw [held] at read
      cases read
      exact .inr ⟨by rw [renamedDeclarations, held], by simp⟩
  | some value =>
      rw [held] at read
      dsimp only at read
      have same (other : ∀ items, value ≠ .list items) : renamedDeclarations name owner = owner := by
        rw [renamedDeclarations, held]
        split
        · rename_i shape
          exact absurd (Option.some.inj shape) (other _)
        · rfl
      split at read
      · cases value with
        | list items =>
            cases read
            exact .inl rfl
        | str text =>
            cases read
            exact .inr ⟨same nofun, by simp⟩
        | object fields =>
            cases read
            refine .inr ⟨same nofun, fun members among => ?_⟩
            obtain ⟨⟨key, value⟩, -, shape⟩ := List.mem_map.mp among
            cases key <;> cases shape
        | _ => cases read
      · rename_i empty
        cases read
        cases value with
        | list items =>
            cases items with
            | nil => exact .inl rfl
            | cons first rest => exact absurd rfl empty
        | _ => exact .inr ⟨same nofun, by simp⟩

end Collected

/-! ## One declaration -/

section List

variable (methods : ∀ method ∈ method?, isMethodKey method = true)

include methods

/-- A declaration that was renamed has a position with few enough digits. -/
theorem isUnwritable_of_renamed
    (applied : (Fix.renameDefinition name (ofParameters path method? ++ Address.item index)).apply
      document = .ok after) : Integer.isUnwritable (.ofNat index) = false := by
  rw [← Bool.not_eq_true]
  intro long
  have written := ((isWritten_parameterList methods path).item index).bare
    (show (".name" : String).toList = '.' :: "name".toList from rfl)
  rw [List.append_assoc] at written
  have unread := ofText_endless written
    (fun step among => (words_parameterList methods path step among).1)
    (fun step among => by cases List.mem_singleton.mp among; decide) long
  obtain ⟨edits, planned, -⟩ := Change.apply_ok applied
  obtain ⟨way, located, -⟩ := bind_ok planned
  obtain ⟨selectors, read, -⟩ := bind_ok (mapError_ok located)
  rw [show (Fix.renameDefinition name (ofParameters path method? ++ Address.item index)).address =
    ofParameters path method? ++ Address.item index ++ ".name" from rfl, unread] at read
  cases read

theorem renameDefinition_ok
    (found : document.at? ((parameterListNames path method?).map .name) = some (.list items))
    (here : items[index]? = some (.object members))
    (applied : (Fix.renameDefinition name (ofParameters path method? ++ Address.item index)).apply
      document = .ok after) :
    after = Node.graft (.list (items.set index
      (.object (Members.put (.str "name") (.str name) members))))
        ((parameterListNames path method?).map .name) document := by
  have readable := isUnwritable_of_renamed methods applied
  have located : (Fix.renameDefinition name (ofParameters path method? ++ Address.item index)).locate
      document = .ok (((parameterListNames path method?).map .name ++ [.position (.ofNat index)]) ++
        ["name"].map .name) := by
    rw [List.append_assoc]
    exact Change.locate_of (locate_definitionName methods path readable document)
  have reached : document.at? ((parameterListNames path method?).map .name ++
      [.position (.ofNat index)]) = some (.object members) := by
    rw [Node.at?_append_of_some found, Node.at?_singleton]
    exact here
  obtain ⟨rfl, -⟩ := Change.set_ok rfl (by simp) located reached applied
  have stepped : (Node.list items).part? (.position (.ofNat index)) = some (.object members) := here
  rw [List.append_assoc, Node.graft_append_of_some found, List.singleton_append, Node.graft_cons,
    stepped]
  rfl

/-! ## One list -/

/-- The declarations of a list are renamed from the front: behind those that are done the list is
still as it was. -/
theorem renameDefinitions_ok
    (found : document.at? ((parameterListNames path method?).map .name) =
      some (.list (done ++ rest)))
    (collected : idDefinitions? source (ofParameters path method?) done.length rest =
      .ok (some definitions))
    (applied : Change.applyAll (definitions.map (Fix.renameDefinition name)) document = .ok after) :
    after = Node.graft (.list (done ++ rest.map (renamedDeclaration name)))
      ((parameterListNames path method?).map .name) document := by
  induction rest generalizing document done definitions with
  | nil =>
      cases collected
      cases applied
      rw [List.map_nil]
      exact (Node.graft_of_at? found).symm
  | cons first rest ih =>
      have next_position : (done ++ [renamedDeclaration name first]).length = done.length + 1 := by
        rw [List.length_append, List.length_singleton]
      rw [List.map_cons, List.append_cons]
      rcases idDefinitions?_cons_ok name collected with
        ⟨same, later⟩ | ⟨members, more, rfl, renamed, rfl, later⟩
      · refine ih ?_ (next_position ▸ later) applied
        rw [same, ← List.append_cons]
        exact found
      · rw [List.map_cons, Change.applyAll_cons] at applied
        obtain ⟨next, stepped, applied⟩ := bind_ok applied
        have here : (done ++ Node.object members :: rest)[done.length]? = some (.object members) := by
          simp
        have changed := renameDefinition_ok methods found here stepped
        rw [← renamed, List.set_append_right _ _ (Nat.le_refl _), Nat.sub_self, List.set_cons_zero,
          List.append_cons] at changed
        subst changed
        have behind := ih (Node.at?_graft_self (Node.isOpen_of_at? found)) (next_position ▸ later)
          applied
        rw [Node.graft_graft] at behind
        exact behind

/-- An owner that was found has the declarations of its list renamed. -/
theorem renameOwner_ok
    (leads : front ++ [.name "parameters"] = (parameterListNames path method?).map .name)
    (found : document.at? front = some (.object owner)) (read : parameterItems owner = .ok items)
    (collected : idDefinitions? source (ofParameters path method?) 0 items = .ok (some definitions))
    (applied : Change.applyAll (definitions.map (Fix.renameDefinition name)) document = .ok after) :
    after = Node.graft (.object (renamedDeclarations name owner)) front document := by
  rcases parameterItems_shape name read with listed | ⟨same, plain⟩
  · have reached : document.at? ((parameterListNames path method?).map .name) =
        some (.list ([] ++ items)) := by
      rw [← leads, Node.at?_append_of_some found, Node.at?_singleton]
      exact listed
    obtain rfl := renameDefinitions_ok methods reached collected applied
    rw [← leads, Node.graft_append_of_some found, renamedDeclarations, listed]
    rfl
  · obtain rfl := idDefinitions?_of_no_object plain collected
    cases applied
    rw [same]
    exact (Node.graft_of_at? found).symm

end List

/-! ## Path items -/

section PathItem

variable {levels : List (Option String × Members)} {level : Option String × Members}
  {member : Key × Node} {front back : Members}

/-- The parameter list of a member of a path item, if the member is an operation. -/
def operationLevel? : Key × Node → Option (Option String × Members)
  | (.str method, .object operation) =>
    if httpMethods.contains (lower method) then some (some (lower method), operation) else none
  | _ => none

theorem parameterLevels_eq (item : Members) :
    parameterLevels item = (none, item) :: item.filterMap operationLevel? := by
  rw [parameterLevels]
  congr 1
  refine List.filterMap_congr fun member _ => ?_
  obtain ⟨key, value⟩ := member
  cases key <;> cases value <;> rfl

theorem operationLevel?_eq_some (found : operationLevel? member = some level) :
    ∃ method operation, member = (.str method, .object operation) ∧ isMethodKey method = true ∧
      level = (some (lower method), operation) := by
  unfold operationLevel? at found
  split at found
  · rename_i method operation
    split at found
    · rename_i isMethod
      cases found
      exact ⟨method, operation, rfl, isMethod, rfl⟩
    · cases found
  · cases found

theorem renamedOperation_of_none (name : String) (other : operationLevel? member = none) :
    renamedOperation name member = member := by
  unfold operationLevel? at other
  split at other
  · split at other
    · cases other
    · rename_i noMethod
      exact if_neg noMethod
  · rename_i noOperation
    unfold renamedOperation
    split
    · exact absurd rfl (noOperation _ _)
    · rfl

theorem renamedOperation_fst (name : String) (member : Key × Node) :
    (renamedOperation name member).1 = member.1 := by
  unfold renamedOperation
  split
  · split <;> rfl
  · rfl

theorem allIdDefinitions?_cons_ok
    (collected : allIdDefinitions? source path ((method?, owner) :: levels) =
      .ok (some definitions)) :
    ∃ items own more, parameterItems owner = .ok items ∧
      idDefinitions? source (ofParameters path method?) 0 items = .ok (some own) ∧
      allIdDefinitions? source path levels = .ok (some more) ∧ definitions = own ++ more := by
  rw [allIdDefinitions?] at collected
  obtain ⟨items, read, collected⟩ := bind_ok collected
  obtain ⟨own?, listed, collected⟩ := bind_ok collected
  cases own? with
  | none => cases collected
  | some own =>
      obtain ⟨more?, later, collected⟩ := bind_ok collected
      obtain ⟨more, rfl, rfl⟩ := Option.map_eq_some_iff.mp (Except.ok.inj collected)
      exact ⟨items, own, more, read, listed, later, rfl⟩

/-- The operations of a path item are passed from the front: behind those that are done the path
item is still as it was. -/
theorem renameOperations_ok
    (lowered : HasLowerMethods back)
    (distinct : (Members.keys (front ++ back)).Nodup)
    (found : document.at? [.name "paths", .name path] = some (.object (front ++ back)))
    (collected : allIdDefinitions? source path (back.filterMap operationLevel?) =
      .ok (some definitions))
    (applied : Change.applyAll (definitions.map (Fix.renameDefinition name)) document = .ok after) :
    after = Node.graft (.object (front ++ back.map (renamedOperation name)))
      [.name "paths", .name path] document := by
  induction back generalizing document front definitions with
  | nil =>
      cases collected
      cases applied
      rw [List.map_nil]
      exact (Node.graft_of_at? found).symm
  | cons member back ih =>
      have lowerBehind : HasLowerMethods back :=
        fun method value among => lowered method value (List.mem_cons_of_mem _ among)
      have keys : Members.keys (front ++ [renamedOperation name member] ++ back) =
          Members.keys (front ++ member :: back) := by
        simp [Members.keys, renamedOperation_fst]
      rw [List.map_cons, List.append_cons]
      cases read : operationLevel? member with
      | none =>
          rw [List.filterMap_cons_none read] at collected
          refine ih lowerBehind (keys ▸ distinct) ?_ collected applied
          rw [renamedOperation_of_none name read, ← List.append_cons]
          exact found
      | some level =>
          rw [List.filterMap_cons_some read] at collected
          obtain ⟨method, operation, rfl, isMethod, rfl⟩ := operationLevel?_eq_some read
          have small := lowered method _ List.mem_cons_self isMethod
          obtain ⟨items, own, more, items_read, listed, later, rfl⟩ :=
            allIdDefinitions?_cons_ok collected
          rw [List.map_append, Change.applyAll_append] at applied
          obtain ⟨next, stepped, applied⟩ := bind_ok applied
          have apart : Key.str method ∉ Members.keys front := Members.not_mem_front distinct
          have there : document.at? ([.name "paths", .name path] ++ [.name method]) =
              some (.object operation) := by
            rw [Node.at?_append_of_some found, Node.at?_singleton]
            exact Members.lookup_between apart
          have leads : [.name "paths", .name path] ++ [.name method] ++ [.name "parameters"] =
              (parameterListNames path (some (lower method))).map Part.name := by
            simp [parameterListNames, small]
          have changed := renameOwner_ok (by simpa [small] using isMethod) leads there items_read
            listed stepped
          have renamed : Node.graft (.object (renamedDeclarations name operation)) [.name method]
              (.object (front ++ (.str method, .object operation) :: back)) = .object (front ++
                [renamedOperation name (.str method, .object operation)] ++ back) := by
            rw [Node.graft_cons, Node.graft_nil, Node.withPart, Members.put_append_cons apart,
              renamedOperation, if_pos (show httpMethods.contains (lower method) = true from isMethod),
              ← List.append_cons]
          rw [Node.graft_append_of_some found, renamed] at changed
          subst changed
          have behind := ih lowerBehind (keys ▸ distinct)
            (Node.at?_graft_self (Node.isOpen_of_at? found)) later applied
          rw [Node.graft_graft] at behind
          exact behind

/-- The whole path item: its own list first, then those of its operations. -/
theorem renameItem_ok
    (lowered : HasLowerMethods item)
    (distinct : (Members.keys item).Nodup)
    (found : document.at? [.name "paths", .name path] = some (.object item))
    (collected : allIdDefinitions? source path (parameterLevels item) = .ok (some definitions))
    (applied : Change.applyAll (definitions.map (Fix.renameDefinition name)) document = .ok after) :
    after = Node.graft (.object (renamedItem name item)) [.name "paths", .name path] document := by
  rw [parameterLevels_eq] at collected
  obtain ⟨items, own, more, read, listed, later, rfl⟩ := allIdDefinitions?_cons_ok collected
  rw [List.map_append, Change.applyAll_append] at applied
  obtain ⟨next, stepped, applied⟩ := bind_ok applied
  obtain rfl := renameOwner_ok (by simp) rfl found read listed stepped
  -- the operations are still those of the path item as it was
  have same : (renamedDeclarations name item).filterMap operationLevel? =
      item.filterMap operationLevel? := by
    rcases renamedDeclarations_shape name item with same | ⟨front, old, new, back, rfl, shape⟩
    · rw [same]
    · have passed (value : Node) : operationLevel? (.str "parameters", value) = none := by
        cases value <;> rfl
      rw [shape, List.filterMap_append, List.filterMap_append, List.filterMap_cons_none (passed new),
        List.filterMap_cons_none (passed old)]
  have keys : Members.keys (renamedDeclarations name item) = Members.keys item := by
    rcases renamedDeclarations_shape name item with same | ⟨front, old, new, back, rfl, shape⟩
    · rw [same]
    · simp [shape, Members.keys]
  have stillLowered : HasLowerMethods (renamedDeclarations name item) := by
    intro method value among isMethod
    obtain ⟨held, inside⟩ := Members.exists_mem_of_mem_keys (keys ▸ Members.mem_keys_of_mem among)
    exact lowered method held inside isMethod
  have there : (Node.graft (.object (renamedDeclarations name item)) [.name "paths", .name path]
      document).at? [.name "paths", .name path] =
        some (.object ([] ++ renamedDeclarations name item)) :=
    Node.at?_graft_self (Node.isOpen_of_at? found)
  have renamed := renameOperations_ok stillLowered (by simpa [keys] using distinct) there
    (same ▸ later) applied
  rw [Node.graft_graft] at renamed
  exact renamed

end PathItem

/-! ## The fix -/

section Renamed

variable {around : AroundItem} {newPath : String}

/-- A path that was renamed stands in the place of the old one, and the new name was free. -/
theorem renamingPath_ok (free : Key.str "paths" ∉ Members.keys around.before)
    (distinct : (Members.keys
      (around.pathsBefore ++ (.str path, .object item) :: around.pathsAfter)).Nodup)
    (applied : (renamingPath path newPath).apply (around.holding path item) = .ok after) :
    Key.str newPath ∉ Members.keys around.pathsBefore ∧ after = around.holding newPath item := by
  have located : (renamingPath path newPath).locate (around.holding path item) =
      .ok ([] ++ ["paths"].map .name) := locate_renamingPath path newPath _
  have paths : (around.holding path item).at? ([] ++ ["paths"].map .name) = some (.object
      (around.pathsBefore ++ (.str path, .object item) :: around.pathsAfter)) :=
    AroundItem.at?_paths free
  have present : Members.has (around.pathsBefore ++ (.str path, .object item) :: around.pathsAfter)
      path = true := by
    rw [Members.has_iff, Members.keys, List.map_append]
    exact List.mem_append_right _ List.mem_cons_self
  obtain ⟨edits, planned, -⟩ := Change.apply_ok applied
  obtain ⟨members, found, ⟨gone, -⟩ | ⟨-, fresh, -⟩⟩ :=
    (Change.plan_rename_iff rfl rfl rfl located Node.at?_nil).mp planned
  · cases paths.symm.trans found
    rw [present] at gone
    cases gone
  · cases paths.symm.trans found
    obtain ⟨members, again, ⟨taken, -⟩ | ⟨-, -, rfl⟩⟩ :=
      Change.rename_ok rfl rfl rfl located Node.at?_nil applied
    · cases paths.symm.trans again
      rw [fresh] at taken
      cases taken
    · cases paths.symm.trans again
      rw [Members.has_eq_false_iff, Members.keys, List.map_append] at fresh
      refine ⟨fun among => fresh (List.mem_append_left _ among), ?_⟩
      rw [Members.renameKey_between distinct]
      show Node.graft _ [.name "paths"] _ = _
      rw [Node.graft_cons, Node.graft_nil, AroundItem.holding, Node.withPart,
        Members.put_append_cons free]
      rfl

/-- In a named document a path item is what is found under its path. -/
theorem AroundItem.free_of_isNamed (named : (around.holding path item).isNamed = true) :
    Key.str "paths" ∉ Members.keys around.before ∧
      Key.str path ∉ Members.keys around.pathsBefore := by
  have free := Members.not_mem_front (Node.distinct_of_isNamed named)
  exact ⟨free, Members.not_mem_front (Node.distinct_of_isNamed
    (Node.isNamed_of_at? named (AroundItem.at?_paths free)))⟩

/-- A renaming of a path parameter that was applied to a document changes the name of the path and
the names in the collected declarations. Everything else stays in its place. -/
theorem renameParameter_ok {oldName : String}
    (named : (around.holding path item).isNamed = true)
    (lowered : HasLowerMethods item)
    (collected : allIdDefinitions? source newPath (parameterLevels item) = .ok (some definitions))
    (applied : Change.applyAll (Fix.renameParameter path newPath oldName name definitions).changes
      (around.holding path item) = .ok after) :
    after = around.holding newPath (renamedItem name item) := by
  obtain ⟨free, pathFree⟩ := AroundItem.free_of_isNamed named
  have distinct := Node.distinct_of_isNamed
    (Node.isNamed_of_at? named (AroundItem.at?_paths free))
  have itemDistinct := Node.distinct_of_isNamed
    (Node.isNamed_of_at? named (AroundItem.at?_holding free pathFree))
  have steps : (Fix.renameParameter path newPath oldName name definitions).changes =
      renamingPath path newPath :: definitions.map (Fix.renameDefinition name) := rfl
  rw [steps, Change.applyAll_cons] at applied
  obtain ⟨next, renamed, applied⟩ := bind_ok applied
  obtain ⟨newFree, rfl⟩ := renamingPath_ok free distinct renamed
  obtain rfl := renameItem_ok lowered itemDistinct (AroundItem.at?_holding free newFree) collected
    applied
  exact AroundItem.graft_holding free newFree _

end Renamed

end ApiReview
