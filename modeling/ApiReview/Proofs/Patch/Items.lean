import ApiReview.Proofs.Node.Alike
import ApiReview.Proofs.Patch.Again

/-! Values that are set at a member of an item. Where a list has the item, the member is
set in it. Where there is no list, an object stands in for the item, under its position
as a name, and is made anew each time. Either way the value is settled: setting it once
more changes nothing, and neither does setting a member of another item. -/

set_option autoImplicit false

namespace ApiReview

variable {change : Change} {names others : List String} {index position : Nat}
  {last word : String} {document after node value : Node} {root part : Part} {done rest : List Part}
  {edits : List Edit}

def itemWay (names : List String) (index : Nat) (last : String) : List Part :=
  names.map .name ++ [.position (.ofNat index), .name last]

def standInWay (names : List String) (index : Nat) : List Part :=
  (names ++ [toString index]).map .name

/-- Whether a value stands at a member of an item, or alone in what stands in for the item. -/
def IsSettled (document : Node) (names : List String) (index : Nat) (last : String)
    (value : Node) : Prop :=
  document.at? (itemWay names index last) = some value ∨
    document.at? (standInWay names index) = some (.object [(.str last, value)])

theorem tokensOf_names (names : List String) : tokensOf (names.map .name) = names := by
  simp [tokensOf, Part.token, Function.comp_def]

theorem tokensOf_itemWay (names : List String) (index : Nat) (last : String) :
    tokensOf (itemWay names index last) = names ++ [toString index] ++ [last] := by
  have item : (Part.position (.ofNat index)).token = toString index := rfl
  rw [itemWay, tokensOf, List.map_append, ← tokensOf, tokensOf_names, List.append_assoc,
    List.map_cons, item]
  rfl

theorem itemWay_eq (names : List String) (index : Nat) (last : String) :
    itemWay names index last =
      (names.map .name ++ [.position (.ofNat index)]) ++ [last].map .name := by
  simp [itemWay]

theorem Edit.add_member {members : Members} (opened : document.isOpen (names.map .name) = true)
    (last : String) (value : Node) :
    (Edit.add (names ++ [last]) value).apply
        (Node.graft (.object members) (names.map .name) document) =
      .ok (Node.graft (.object (Members.put (.str last) value members)) (names.map .name)
        document) := by
  have reached : (Node.graft (.object members) (names.map .name) document).at? (names.map .name) =
      some (.object members) := Node.at?_graft_self opened
  rw [Edit.add_names reached, List.map_append, Node.graft_append, reached]
  exact congrArg Except.ok Node.graft_graft

/-! ## The way to an item -/

/-- Named members are under no number. -/
theorem child?_item (named : node.isNamed = true) (notList : ∀ items, node ≠ .list items)
    (index : Nat) : node.child? (.position (.ofNat index)) = .ok none := by
  cases node with
  | object members =>
      have absent : Key.int (.ofNat index) ∉ Members.keys members := by
        intro present
        obtain ⟨value, among⟩ := Members.exists_mem_of_mem_keys present
        obtain ⟨name, impossible⟩ := (Node.isNamed_of_mem named among).1
        cases impossible
      exact congrArg Except.ok (Members.lookup_eq_none_iff.mpr absent)
  | list items => exact absurd rfl (notList items)
  | _ => rfl

theorem child?_beyond {items : List Node} (beyond : items.length ≤ index) :
    (Node.list items).child? (.position (.ofNat index)) = .ok none := by
  have outside : Int.ofNat items.length ≤ Int.ofNat index := by
    simp only [Int.ofNat_eq_natCast]
    omega
  rw [Node.child?, if_pos outside]

/-- One step of a walk that is not refused: it goes on in the part that exists, or in an empty
object that is created for it. Where the way leads from there makes no difference to the step. -/
theorem ensureParents_cons_cases {next : Part}
    (planned : ensureParents root node done (part :: next :: rest) = .ok edits) :
    ∃ child created,
      ((node.child? part = .ok (some child) ∧ created = []) ∨
        (node.child? part = .ok none ∧ child = .object [] ∧
          created = [.add (tokensOf (done ++ [part])) (.object [])])) ∧
      ∀ next rest, ensureParents root node done (part :: next :: rest) =
        (ensureParents root child (done ++ [part]) (next :: rest)).map (created ++ ·) := by
  have allowed := ensureParents_allowed planned
  rcases ensureParents_cons_ok planned with ⟨child, looked, _⟩ | ⟨missing, object, created⟩
  · refine ⟨child, [], .inl ⟨looked, rfl⟩, fun next rest => ?_⟩
    have further : child.hasParts = true := by
      rw [ensureParents, allowed, looked] at planned
      · cases child with
        | object members => rfl
        | list items => rfl
        | _ => cases planned
      · exact List.cons_ne_nil _ _
    rw [ensureParents_step looked further allowed]
    cases ensureParents root child (done ++ [part]) (next :: rest) <;> rfl
  · refine ⟨.object [], _, .inr ⟨missing, rfl, rfl⟩, fun next rest => ?_⟩
    rw [ensureParents_empty, ensureParents, allowed, missing]
    · simp only [Bool.false_eq_true, if_false, Except.mapError, bind, Except.bind, object, if_true]
      cases createParents root (done ++ [part]) (next :: rest) <;> rfl
    · exact List.cons_ne_nil next rest

/-- Where no list is, the walk to a member of an item is that to what stands in for the item, which
is then created. -/
theorem ensureParents_standIn (named : node.isNamed = true)
    (notList : ∀ items, node.at? (names.map .name) ≠ some (.list items))
    (planned : ensureParents root node done (itemWay names index last) = .ok edits) :
    ∃ first, ensureParents root node done (standInWay names index) = .ok first ∧
      edits = first ++ [.add (tokensOf (done ++ standInWay names index)) (.object [])] := by
  -- the two ways take the same steps up to the item, where the one ends and the other goes on
  induction names generalizing node done edits with
  | nil =>
      have missing := child?_item named (fun items isList => notList items (congrArg some isList))
        index
      obtain ⟨child, created, ⟨looked, _⟩ | ⟨_, rfl, rfl⟩, step⟩ := ensureParents_cons_cases planned
      · rw [missing] at looked
        cases looked
      · refine ⟨[], rfl, ?_⟩
        have result := (step (.name last) []).symm.trans planned
        cases result
        have item : (Part.position (.ofNat index)).token = toString index := rfl
        simp only [standInWay, tokensOf, List.map_append, List.map_cons, List.map_nil, item]
        rfl
  | cons name names ih =>
      obtain ⟨next, more, split⟩ : ∃ next more, itemWay names index last = next :: more :=
        List.exists_cons_of_ne_nil (by simp [itemWay])
      obtain ⟨other, behind, standIn⟩ : ∃ other behind, standInWay names index = other :: behind :=
        List.exists_cons_of_ne_nil (by simp [standInWay])
      have whole : itemWay (name :: names) index last = .name name :: next :: more := by
        rw [← split]
        rfl
      have wholeStandIn : standInWay (name :: names) index = .name name :: other :: behind := by
        rw [← standIn]
        rfl
      rw [whole] at planned
      obtain ⟨child, created, found, step⟩ := ensureParents_cons_cases planned
      have childNamed : child.isNamed = true ∧
          ∀ items, child.at? (names.map .name) ≠ some (.list items) := by
        rcases found with ⟨looked, _⟩ | ⟨_, rfl, _⟩
        · rw [Node.child?_name] at looked
          have stepped := Except.ok.inj looked
          refine ⟨Node.isNamed_of_part? named stepped, fun items isList => notList items ?_⟩
          rw [List.map_cons, Node.at?_cons, stepped]
          exact isList
        · refine ⟨rfl, fun items isList => ?_⟩
          cases names with
          | nil => cases isList
          | cons other names => cases isList
      rw [step] at planned
      cases further : ensureParents root child (done ++ [.name name]) (next :: more) with
      | error error =>
          rw [further] at planned
          cases planned
      | ok later =>
          rw [further] at planned
          cases planned
          rw [← split] at further
          obtain ⟨first, opened, rfl⟩ := ih childNamed.1 childNamed.2 further
          refine ⟨created ++ first, ?_, ?_⟩
          · rw [wholeStandIn, step, ← standIn, opened]
            rfl
          · rw [List.append_assoc, wholeStandIn, ← standIn, List.append_assoc]
            rfl

theorem ensureParents_names {base : Node} {next : Part}
    (reached : node.at? (names.map .name) = some base) (further : base.hasParts = true) :
    ensureParents root node done (names.map .name ++ next :: rest) =
      ensureParents root base (done ++ names.map .name) (next :: rest) := by
  induction names generalizing node done with
  | nil =>
      cases reached
      rw [List.map_nil, List.append_nil, List.nil_append]
  | cons name names ih =>
      obtain ⟨child, stepped, reached⟩ := Option.bind_eq_some_iff.mp reached
      obtain ⟨following, more, split⟩ : ∃ following more,
          names.map Part.name ++ next :: rest = following :: more :=
        List.exists_cons_of_ne_nil (by simp)
      have childFurther : child.hasParts = true := by
        cases names with
        | nil =>
            cases reached
            exact further
        | cons other names =>
            obtain ⟨grandchild, inside, _⟩ := Option.bind_eq_some_iff.mp reached
            exact Node.hasParts_of_takes (Node.takes_of_part? inside)
      have present : hasMember node (.name name) = true := by
        cases node with
        | object members =>
            have read : Members.get? members name = some child := stepped
            rw [hasMember, Members.has, read]
            rfl
        | _ => cases stepped
      rw [List.map_cons, List.cons_append, split, ensureParents_step
        (Node.child?_of_part? stepped) childFurther (by rw [present]; rfl), ← split, ih reached]
      simp

theorem isProtected_deep {depth : Nat} (deep : 3 ≤ depth) : isProtected root depth = false := by
  have beyond : ¬ depth < 3 := by omega
  rw [isProtected, decide_eq_false beyond, Bool.and_false]

theorem readable_item (names : List String)
    (readable : Integer.isUnwritable (.ofNat index) = false) :
    ∀ part ∈ names.map Part.name ++ [.position (.ofNat index)], part.isReadable = true := by
  intro part among
  rcases List.mem_append.mp among with inside | inside
  · obtain ⟨name, -, rfl⟩ := List.mem_map.mp inside
    rfl
  · cases List.mem_singleton.mp inside
    rw [Part.isReadable, readable]
    rfl

theorem Edit.add_idle {front : List Part} {held : Members}
    (readable : ∀ part ∈ front, part.isReadable = true)
    (owner : document.at? front = some (.object held)) (read : Members.get? held last = some value) :
    (Edit.add (tokensOf front ++ [last]) value).apply document = .ok document := by
  obtain ⟨first, more, split⟩ : ∃ first more, tokensOf front ++ [last] = first :: more :=
    List.exists_cons_of_ne_nil (by simp)
  have possible : Shape.add value last (Node.object held).shape =
      .ok (.object (Members.put (.str last) value held)) := rfl
  have edited := Node.editAt_of_at? readable owner possible
  rw [Members.put_of_lookup read] at edited
  rw [split] at edited ⊢
  exact edited.trans (congrArg Except.ok (Node.graft_of_at? owner))

/-! ## Setting -/

namespace Change

variable (kind : change.kind = .set)
  (located : change.locate document = .ok (itemWay names index last))
  (named : document.isNamed = true)

section NoList

variable (notList : ∀ items, document.at? (names.map .name) ≠ some (.list items))

include kind located named notList

/-- Without a list, what stands in for the item is created, and the value added to it. -/
theorem plan_standIn : change.plan document = .ok edits ↔ ∃ parents,
    parentEdits document (itemWay names index last) = .ok parents ∧
      edits = parents ++ [.add (names ++ [toString index] ++ [last]) change.value] := by
  have absent : ∀ rest : List Part,
      lookupFor document (names.map .name ++ .position (.ofNat index) :: rest) = .ok none := by
    intro rest
    rw [lookupFor, Node.lookup?_names_append]
    cases found : document.at? (names.map .name) with
    | none => rfl
    | some base =>
        have missing := child?_item (Node.isNamed_of_at? named found)
          (fun items isList => notList items (isList ▸ found)) index
        simp only [Node.lookup?, missing]
        rfl
  have above : (itemWay names index last).dropLast =
      names.map .name ++ [.position (.ofNat index)] := by
    rw [itemWay_eq, List.map_singleton, List.dropLast_concat]
  have noOwner : lookupFor document (itemWay names index last).dropLast = .ok none := by
    rw [above]
    exact absent []
  rw [← tokensOf_itemWay]
  refine plan_set_of_lookup kind ?_ located (absent [.name last]) noOwner fun items isList => ?_
  · simp [itemWay]
  · cases isList

/-- Without a list, the item is made anew as an object with the one member. -/
theorem set_standIn (nonempty : names ≠ []) (applied : change.apply document = .ok after) :
    after = Node.graft (.object [(.str last, change.value)]) (standInWay names index) document ∧
      document.isOpen (standInWay names index) = true := by
  obtain ⟨edits, planned, made⟩ := apply_ok applied
  obtain ⟨parents, opened, rfl⟩ := (plan_standIn kind located named notList).mp planned
  obtain ⟨name, more, rfl⟩ := List.exists_cons_of_ne_nil nonempty
  have ensured : ensureParents (.name name) document [] (itemWay (name :: more) index last) =
      .ok parents := opened
  obtain ⟨first, standIn, rfl⟩ := ensureParents_standIn named notList ensured
  rw [Edit.applyAll, List.foldlM_append] at made
  obtain ⟨between, created, made⟩ := bind_ok made
  have notListAbove : ∀ items, document.at? ([] ++
      ((name :: more) ++ [toString index]).dropLast.map .name) ≠ some (.list items) := by
    rwa [List.dropLast_concat]
  obtain ⟨rfl, openWay⟩ := carryOut_parentEdits (List.concat_ne_nil _ _) Node.at?_nil
    (show parentEdits document ([] ++ ((name :: more) ++ [toString index]).map .name) = .ok first
      from standIn) notListAbove created
  refine ⟨?_, openWay⟩
  obtain ⟨result, added, rest⟩ := Edit.applyAll_cons_ok made
  cases rest
  exact Except.ok.inj (added.symm.trans (Edit.add_member openWay last change.value))

end NoList

include kind in
/-- A set is planned only if the way to its place can be walked. -/
theorem parents_of_plan_set {way : List Part} (some_step : way ≠ [])
    (planned : change.plan document = .ok edits) (located : change.locate document = .ok way) :
    ∃ parents, parentEdits document way = .ok parents := by
  have some_step : way.isEmpty = false := List.isEmpty_eq_false_iff.mpr some_step
  rw [Change.plan, kind, Change.planSet, located] at planned
  simp only [bind, Except.bind, some_step, Bool.false_eq_true, if_false] at planned
  cases opened : parentEdits document way with
  | ok parents => exact ⟨parents, rfl⟩
  | error error =>
      rw [opened] at planned
      cases planned

include kind located in
/-- In a list the value is set in the item, which the list has. -/
theorem set_item {items : List Node} (nonempty : names ≠ [])
    (isList : document.at? (names.map .name) = some (.list items))
    (applied : change.apply document = .ok after) :
    after = Node.graft change.value (itemWay names index last) document ∧
      document.isOpen (itemWay names index last) = true := by
  by_cases within : index < items.length
  · have reached : document.at? (names.map .name ++ [.position (.ofNat index)]) =
        some items[index] := by
      rw [Node.at?_append_of_some isList, Node.at?_singleton]
      exact List.getElem?_eq_getElem within
    rw [itemWay_eq] at located ⊢
    obtain ⟨grafted, opened, -⟩ := set_ok kind (List.cons_ne_nil _ _) located reached applied
    exact ⟨grafted, opened⟩
  · obtain ⟨edits, planned, -⟩ := apply_ok applied
    obtain ⟨parents, opened⟩ := parents_of_plan_set kind (by simp [itemWay]) planned located
    obtain ⟨root, more, rfl⟩ := List.exists_cons_of_ne_nil nonempty
    have walked : ensureParents (.name root) document [] ((root :: more).map .name ++
        .position (.ofNat index) :: [.name last]) = .ok parents := opened
    rw [ensureParents_names isList rfl] at walked
    rcases ensureParents_cons_ok walked with ⟨child, looked, -⟩ | ⟨-, object, -⟩
    · rw [child?_beyond (Nat.le_of_not_lt within)] at looked
      cases looked
    · cases object

section Settled

include kind located

theorem set_item_idle (deep : 3 ≤ names.length)
    (readable : Integer.isUnwritable (.ofNat index) = false)
    (stands : document.at? (itemWay names index last) = some change.value) :
    change.apply document = .ok document := by
  have way := itemWay_eq names index last
  rw [way] at located stands
  have owned := stands
  rw [List.map_singleton] at owned
  obtain ⟨held, owner, read⟩ := Node.exists_object_of_member owned
  obtain ⟨list, isList, stepped⟩ := Node.at?_of_append owner
  rw [Node.at?_singleton] at stepped
  have parents : parentEdits document
      ((names.map .name ++ [.position (.ofNat index)]) ++ [last].map .name) = .ok [] := by
    obtain ⟨root, more, rfl⟩ := List.exists_cons_of_ne_nil 
      (List.ne_nil_of_length_pos (show 0 < names.length by omega))
    rw [← way]
    change ensureParents (.name root) document [] ((root :: more).map .name ++
      .position (.ofNat index) :: [.name last]) = .ok []
    rw [ensureParents_names isList (Node.hasParts_of_takes (Node.takes_of_part? stepped)),
      ensureParents_step (Node.child?_of_part? stepped) rfl]
    · rfl
    · rw [isProtected_deep (by simpa using deep), Bool.and_false]
  have planned : change.plan document = .ok ([] ++ [.add (tokensOf ((names.map .name ++
      [.position (.ofNat index)]) ++ [last].map .name)) change.value]) := by
    refine (plan_set_iff kind (List.cons_ne_nil _ _) located owner).mpr ⟨?_, [], parents, rfl⟩
    intro items isItems
    rw [List.dropLast_singleton, List.map_nil, List.append_nil, owner] at isItems
    cases isItems
  refine apply_of_plan planned ?_
  have path : tokensOf ((names.map .name ++ [.position (.ofNat index)]) ++ [last].map Part.name) =
      tokensOf (names.map .name ++ [.position (.ofNat index)]) ++ [last] := by
    simp [tokensOf, Part.token]
  rw [List.nil_append, Edit.applyAll, List.foldlM_cons, path,
    Edit.add_idle (readable_item names readable) owner read]
  rfl

theorem set_standIn_idle (named : document.isNamed = true) (deep : 3 ≤ names.length)
    (stands : document.at? (standInWay names index) =
      some (.object [(.str last, change.value)])) :
    change.apply document = .ok document := by
  have standIn := stands
  rw [standInWay, List.map_append, List.map_singleton] at stands
  obtain ⟨members, owner, read⟩ := Node.exists_object_of_member stands
  have notList : ∀ items, document.at? (names.map .name) ≠ some (.list items) := by
    intro items isList
    rw [owner] at isList
    cases isList
  have missing := child?_item (Node.isNamed_of_at? named owner) (by simp) index
  have parents : parentEdits document (itemWay names index last) =
      .ok [.add (names ++ [toString index]) (.object [])] := by
    have path : tokensOf (names.map .name ++ [.position (.ofNat index)]) =
        names ++ [toString index] := by
      rw [tokensOf, List.map_append, ← tokensOf, tokensOf_names]
      rfl
    rw [← path]
    obtain ⟨root, more, rfl⟩ := List.exists_cons_of_ne_nil
      (List.ne_nil_of_length_pos (show 0 < names.length by omega))
    change ensureParents (.name root) document [] ((root :: more).map .name ++
      .position (.ofNat index) :: [.name last]) = _
    have free : isProtected (.name root) ((root :: more).map Part.name).length = false :=
      isProtected_deep (by simpa using deep)
    rw [ensureParents_names owner rfl, List.nil_append, ensureParents, free, Bool.and_false,
      missing]
    · rw [if_neg Bool.false_ne_true]
      simp only [Except.mapError, bind, Except.bind, createParents]
      rfl
    · exact List.cons_ne_nil _ _
  have planned := (plan_standIn kind located named notList).mpr ⟨_, parents, rfl⟩
  refine apply_of_plan planned ?_
  have opened : document.isOpen ((names ++ [toString index]).map .name) = true :=
    Node.isOpen_of_at? standIn
  have value : Members.put (.str last) change.value [] = [(.str last, change.value)] := rfl
  rw [Edit.applyAll, List.cons_append, List.nil_append, List.foldlM_cons, Edit.add_names owner]
  simp only [bind, Except.bind, List.foldlM_cons]
  rw [Edit.add_member opened, value, ← standInWay, Node.graft_of_at? standIn]
  rfl

theorem set_settled_idle (named : document.isNamed = true) (deep : 3 ≤ names.length)
    (readable : Integer.isUnwritable (.ofNat index) = false)
    (settled : IsSettled document names index last change.value) :
    change.apply document = .ok document := by
  rcases settled with stands | stands
  · exact set_item_idle kind located deep readable stands
  · exact set_standIn_idle kind located named deep stands

end Settled

end Change

/-! ## Several items -/

/-- Neither of two ways goes on where the other ends. -/
def Beside (way other : List Part) : Prop := ¬ way <+: other ∧ ¬ other <+: way

section Ways

variable {way other : List Part}

theorem Beside.append (beside : Beside way other) (behind further : List Part) :
    Beside (way ++ behind) (other ++ further) := by
  constructor
  · intro inside
    rcases List.prefix_or_prefix_of_prefix ((List.prefix_append way behind).trans inside)
      (List.prefix_append other further) with front | front
    · exact beside.1 front
    · exact beside.2 front
  · intro inside
    rcases List.prefix_or_prefix_of_prefix ((List.prefix_append other further).trans inside)
      (List.prefix_append way behind) with front | front
    · exact beside.2 front
    · exact beside.1 front

theorem beside_of_ne {first second : Part} (different : first ≠ second)
    (front behind further : List Part) :
    Beside (front ++ first :: behind) (front ++ second :: further) := by
  constructor
  · intro inside
    rw [List.prefix_append_right_inj, List.cons_prefix_cons] at inside
    exact different inside.1
  · intro inside
    rw [List.prefix_append_right_inj, List.cons_prefix_cons] at inside
    exact different inside.1.symm

/-- Where the value of an item is set: in the item, or in what stands in for it. -/
def IsItemPlace (names : List String) (index : Nat) (last : String) (place : List Part) : Prop :=
  place = itemWay names index last ∨ place = standInWay names index

theorem standInWay_eq (names : List String) (index : Nat) :
    standInWay names index = names.map .name ++ [.name (toString index)] := by
  rw [standInWay, List.map_append, List.map_singleton]

theorem beside_of_other_item (different : index ≠ position) {place : List Part}
    (first : IsItemPlace names index last way) (second : IsItemPlace names position last place) :
    Beside way place := by
  have words : Part.name (toString index) ≠ .name (toString position) :=
    fun same => different (Nat.repr_injective (Part.name.inj same))
  have positions : Part.position (.ofNat index) ≠ .position (.ofNat position) :=
    fun same => different (Int.ofNat.inj (Part.position.inj same))
  rcases first with rfl | rfl <;> rcases second with rfl | rfl <;>
    simp only [itemWay, standInWay_eq]
  · exact beside_of_ne positions ..
  · exact beside_of_ne (by simp) ..
  · exact beside_of_ne (by simp) ..
  · exact beside_of_ne words ..

theorem beside_of_other_list (apart : Beside (names.map .name) (others.map .name))
    {place : List Part} (first : IsItemPlace names index last way)
    (second : IsItemPlace others position last place) : Beside way place := by
  rcases first with rfl | rfl <;> rcases second with rfl | rfl <;>
    simp only [itemWay, standInWay_eq] <;> exact apart.append ..

theorem IsSettled.graft (settled : IsSettled document names index last value) {place : List Part}
    (beside : ∀ way, IsItemPlace names index last way → Beside place way) (added : Node) :
    IsSettled (Node.graft added place document) names index last value := by
  rcases settled with stands | stands
  · obtain ⟨apart, aside⟩ := beside _ (.inl rfl)
    exact .inl ((Node.at?_graft_beside apart aside).trans stands)
  · obtain ⟨apart, aside⟩ := beside _ (.inr rfl)
    exact .inr ((Node.at?_graft_beside apart aside).trans stands)

/-- A value that is set at a member of an item is settled there, and the document is the same
elsewhere. -/
theorem Change.set_settles (kind : change.kind = .set)
    (located : change.locate document = .ok (itemWay names index last))
    (named : document.isNamed = true) (valueNamed : change.value.isNamed = true)
    (nonempty : names ≠ []) (applied : change.apply document = .ok after) :
    after.isNamed = true ∧ IsSettled after names index last change.value ∧
      ∃ place added, IsItemPlace names index last place ∧ document.isOpen place = true ∧
        after = Node.graft added place document := by
  by_cases isList : ∃ items, document.at? (names.map .name) = some (.list items)
  · obtain ⟨items, isList⟩ := isList
    obtain ⟨rfl, opened⟩ := set_item kind located nonempty isList applied
    exact ⟨Node.isNamed_graft named valueNamed, .inl (Node.at?_graft_self opened), _, _, .inl rfl,
      opened, rfl⟩
  · have notList : ∀ items, document.at? (names.map .name) ≠ some (.list items) :=
      fun items found => isList ⟨items, found⟩
    obtain ⟨rfl, opened⟩ := set_standIn kind located named notList nonempty applied
    have standInNamed : (Node.object [(.str last, change.value)]).isNamed = true := by
      simp [Node.isNamed, Node.haveNames, Key.isName, Members.keys, valueNamed]
    exact ⟨Node.isNamed_graft named standInNamed, .inr (Node.at?_graft_self opened), _, _, .inr rfl,
      opened, rfl⟩

end Ways

end ApiReview
