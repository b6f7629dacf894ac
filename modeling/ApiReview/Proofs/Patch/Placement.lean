import ApiReview.Proofs.Address.Located
import ApiReview.Proofs.Patch.Items
import ApiReview.Proofs.Patch.Pointer

/-! Where a value is set, and what stays beside it. The way to the value is walked
up to the first step that leads nowhere, and from there on the value is put under
names alone. A position leads nowhere in an object, so that the member under its
digits, if the object has one, is made anew with nothing in it but the value. All
else beside the value stays. -/

set_option autoImplicit false

namespace ApiReview

open ApiReview.Address (isForward partSelector)

variable {change : Change} {document after node child parent value : Node} {root part : Part}
  {done way front rest : List Part} {path : List String} {edits : List Edit}

/-! ## Steps that lead nowhere -/

theorem tokensOf_append (front rest : List Part) :
    tokensOf (front ++ rest) = tokensOf front ++ tokensOf rest := List.map_append

theorem tokensOf_name (front : List Part) (part : Part) :
    tokensOf (front ++ [.name part.token]) = tokensOf (front ++ [part]) := by
  rw [tokensOf_append, tokensOf_append]
  rfl

theorem tokensOf_split (front : List Part) (part : Part) (rest : List Part) :
    tokensOf (front ++ part :: rest) =
      tokensOf (front ++ [.name part.token] ++ (tokensOf rest).map .name) := by
  rw [tokensOf_append, tokensOf_append, tokensOf_append, tokensOf_names]
  simp [tokensOf, Part.token]

theorem Node.isOpen_member {members : Members} (name : String)
    (owner : document.at? front = some (.object members)) :
    document.isOpen (front ++ [.name name]) = true := by
  rw [Node.isOpen_append owner]
  rfl

/-- In a named document, names and positions from the front are looked up as they are read. -/
theorem Node.child?_forward (named : node.isNamed = true) (forward : isForward part = true) :
    node.child? part = .ok (node.part? part) := by
  cases part with
  | name name => exact Node.child?_name name node
  | position index =>
      cases index with
      | negSucc index => cases forward
      | ofNat index =>
          by_cases isList : ∃ items, node = .list items
          · obtain ⟨items, rfl⟩ := isList
            by_cases within : index < items.length
            · have stepped : (Node.list items).part? (.position (.ofNat index)) =
                  some items[index] := List.getElem?_eq_getElem within
              rw [Node.child?_of_part? stepped, stepped]
            · have beyond := Nat.le_of_not_lt within
              have missing : (Node.list items).part? (.position (.ofNat index)) = none :=
                List.getElem?_eq_none beyond
              rw [child?_beyond beyond, missing]
          · rw [child?_item named (not_exists.mp isList)]
            cases node with
            | list items => exact absurd ⟨items, rfl⟩ isList
            | _ => rfl

theorem Node.part?_of_forward (named : node.isNamed = true) (forward : isForward part = true)
    (looked : node.child? part = .ok (some child)) : node.part? part = some child :=
  Except.ok.inj ((Node.child?_forward named forward).symm.trans looked)

theorem Node.lookup?_forward (named : node.isNamed = true)
    (forward : ∀ part ∈ way, isForward part = true) : node.lookup? way = .ok (node.at? way) := by
  induction way generalizing node with
  | nil => rfl
  | cons part way ih =>
      rw [Node.lookup?, Node.child?_forward named (forward part List.mem_cons_self), Node.at?_cons]
      cases stepped : node.part? part with
      | none => rfl
      | some child =>
          exact ih (Node.isNamed_of_part? named stepped) fun other among =>
            forward other (List.mem_cons_of_mem _ among)

theorem Node.part?_of_missing (missing : node.child? part = .ok none) : node.part? part = none := by
  cases stepped : node.part? part with
  | none => rfl
  | some child =>
      rw [Node.child?_of_part? stepped] at missing
      cases missing

theorem Node.child?_of_lookup? (looked : node.lookup? [part] = .ok (some child)) :
    node.child? part = .ok (some child) := by
  obtain ⟨child?, stepped, looked⟩ := bind_ok looked
  cases child? with
  | none => cases looked
  | some found =>
      cases looked
      exact stepped

/-- The walk stops where a step leads nowhere, or in front of the last. -/
theorem ensureParents_stops (named : node.isNamed = true)
    (forward : ∀ part ∈ way, isForward part = true) (nonempty : way ≠ [])
    (planned : ensureParents root node done way = .ok edits) :
    ∃ front part rest parent, way = front ++ part :: rest ∧ node.at? front = some parent ∧
      createParents root (done ++ front) (part :: rest) = .ok edits ∧
      (rest ≠ [] → parent.isObject = true ∧ parent.child? part = .ok none) := by
  induction way generalizing node done with
  | nil => exact absurd rfl nonempty
  | cons part way ih =>
      cases way with
      | nil =>
          refine ⟨[], part, [], node, rfl, rfl, ?_, fun impossible => absurd rfl impossible⟩
          rw [List.append_nil]
          exact planned
      | cons next way =>
          rcases ensureParents_cons_ok planned with ⟨child, looked, continued⟩ |
              ⟨missing, object, created⟩
          · have stepped := Node.part?_of_forward named (forward part List.mem_cons_self) looked
            obtain ⟨front, last, rest, parent, split, reached, created, stops⟩ :=
              ih (Node.isNamed_of_part? named stepped)
                (fun other among => forward other (List.mem_cons_of_mem _ among))
                (List.cons_ne_nil next way) continued
            refine ⟨part :: front, last, rest, parent, congrArg (List.cons part) split, ?_, ?_,
              stops⟩
            · rw [Node.at?_cons, stepped]
              exact reached
            · simpa using created
          · refine ⟨[], part, next :: way, node, rfl, rfl, ?_, fun _ => ⟨object, missing⟩⟩
            rw [List.append_nil]
            exact created

theorem pointerText_tokens {other : List Part} (same : tokensOf way = tokensOf other) :
    pointerText way = pointerText other := by
  have text : ∀ parts : List Part, pointerText parts = String.ofList ((tokensOf parts).flatMap
      fun token => '/' :: token.toList.flatMap pointerChar) := by
    intro parts
    rw [tokensOf, List.flatMap_map]
    rfl
  rw [text, text, same]

theorem createParents_cons (root : Part) (done : List Part) (part next : Part) (rest : List Part) :
    createParents root done (part :: next :: rest) =
      if isProtected root done.length then
        .error (.refused (.staleTarget (pointerText (done ++ [part]))))
      else (do
        let edits ← createParents root (done ++ [part]) (next :: rest)
        .ok (.add (tokensOf (done ++ [part])) (.object []) :: edits)) := by
  rw [createParents]
  exact List.cons_ne_nil next rest

/-- Objects are created under names alone. -/
theorem createParents_tokens {other : List Part} (same : tokensOf done = tokensOf other) :
    createParents root done rest = createParents root other ((tokensOf rest).map .name) := by
  induction rest generalizing done other with
  | nil => rfl
  | cons part rest ih =>
      cases rest with
      | nil => rfl
      | cons next rest =>
          have here : tokensOf (done ++ [part]) = tokensOf (other ++ [.name part.token]) := by
            rw [tokensOf_append, tokensOf_append, same]
            rfl
          have depth : done.length = other.length := by
            simpa [tokensOf] using congrArg List.length same
          have later := ih here
          rw [createParents_cons, here, pointerText_tokens here, depth, later]
          exact (createParents_cons root other (.name part.token) (.name next.token) _).symm

/-! ## The place of a value -/

/-- What a value that was set made of a document: it stands for the whole, in place of an item, or
in a member, alone in what the steps behind the member name. -/
inductive Placed (document : Node) (way : List Part) (value after : Node) : Prop
  | whole (empty : way = []) (result : after = value)
  | item {front : List Part} {index : Nat} {items : List Node}
      (split : way = front ++ [.position (.ofNat index)])
      (owner : document.at? front = some (.list items)) (within : index < items.length)
      (readable : ∀ part ∈ way, part.isReadable = true)
      (result : after = Node.graft value way document)
  | member {front : List Part} {part : Part} {rest : List Part} {members : Members}
      (split : way = front ++ part :: rest)
      (owner : document.at? front = some (.object members))
      (fresh : rest ≠ [] → (Node.object members).part? part = none)
      (readable : ∀ part ∈ front, part.isReadable = true)
      (result : after = Node.graft
        (Node.graft value ((tokensOf rest).map .name) (.object []))
        (front ++ [.name part.token]) document)

theorem Change.locate_parts (read : Address.ofText change.address = .ok (way.map partSelector))
    (forward : ∀ part ∈ way, isForward part = true) (document : Node) :
    change.locate document = .ok way :=
  congrArg (Except.mapError _) (Address.locate_parts read forward document)

theorem Change.plan_set_ok (kind : change.kind = .set) (some_step : way ≠ [])
    (located : change.locate document = .ok way) (planned : change.plan document = .ok edits) :
    ∃ parents found? parent?, parentEdits document way = .ok parents ∧
      lookupFor document way = .ok found? ∧ lookupFor document way.dropLast = .ok parent? ∧
      ((∃ items child, parent? = some (.list items) ∧ found? = some child ∧
          edits = parents ++ [.replace (tokensOf way) change.value]) ∨
        ((∀ items, parent? ≠ some (.list items)) ∧
          edits = parents ++ [.add (tokensOf way) change.value])) := by
  rw [Change.plan, kind, Change.planSet] at planned
  obtain ⟨parts, same, planned⟩ := bind_ok planned
  cases located.symm.trans same
  rw [if_neg (by simpa using some_step)] at planned
  obtain ⟨parents, opened, planned⟩ := bind_ok planned
  obtain ⟨found?, looked, planned⟩ := bind_ok planned
  obtain ⟨parent?, above, planned⟩ := bind_ok planned
  refine ⟨parents, found?, parent?, opened, looked, above, ?_⟩
  split at planned
  · rename_i items
    cases found? with
    | none => cases planned
    | some child => exact .inl ⟨items, child, rfl, rfl, (Except.ok.inj planned).symm⟩
  · rename_i other
    exact .inr ⟨fun items isList => other items isList, (Except.ok.inj planned).symm⟩

theorem isReadable_of_edited {edit : String → Shape Node → Except EditError (Shape Node)}
    {last : String} (reached : document.at? front = some parent)
    (edited : document.editAt edit (tokensOf front ++ [last]) = .ok after) :
    ∀ part ∈ front, part.isReadable = true := by
  obtain ⟨_, _, read, _⟩ := Node.editAt_spec edited
  exact Node.isReadable_of_partAt reached read

theorem Edit.add_eq_editAt (path : List String) (last : String) (value document : Node) :
    (Edit.add (path ++ [last]) value).apply document =
      document.editAt (Shape.add value) (path ++ [last]) := by
  obtain ⟨first, more, split⟩ := List.exists_cons_of_ne_nil
    (show path ++ [last] ≠ [] by simp)
  rw [split]
  rfl

theorem Edit.replace_eq_editAt (path : List String) (last : String) (value document : Node) :
    (Edit.replace (path ++ [last]) value).apply document =
      document.editAt (Shape.replace value) (path ++ [last]) := by
  obtain ⟨first, more, split⟩ := List.exists_cons_of_ne_nil
    (show path ++ [last] ≠ [] by simp)
  rw [split]
  rfl

theorem placed_in_item {items : List Node} (reached : document.at? front = some (.list items))
    (stepped : (Node.list items).part? part = some child)
    (made : (Edit.replace (tokensOf (front ++ [part])) value).apply document = .ok after) :
    Placed document (front ++ [part]) value after := by
  have found : document.at? (front ++ [part]) = some child := by
    rw [Node.at?_append_of_some reached, Node.at?_singleton]
    exact stepped
  have grafted : after = Node.graft value (front ++ [part]) document :=
    Edit.replaceAt_ok found made
  have path : tokensOf (front ++ [part]) = tokensOf front ++ [part.token] := tokensOf_append ..
  rw [path, Edit.replace_eq_editAt] at made
  obtain ⟨_, shape, _, replaced, again, _⟩ := Node.editAt_spec made
  rw [Shape.replace] at replaced
  split at replaced
  · cases replaced
  obtain ⟨shaped, stands, _⟩ := Shape.child_of_withChild replaced
  have read : after.partAt (tokensOf (front ++ [part])) = .ok value := by
    rw [path, Node.partAt_append, again]
    simp only [bind, Except.bind, Node.partAt, shaped, stands]
  have reachedAgain : after.at? (front ++ [part]) = some value := by
    rw [grafted]
    exact Node.at?_graft_self (Node.isOpen_of_at? found)
  rcases Node.takes_cases (Node.takes_of_part? stepped) with
    ⟨_, _, _, impossible⟩ | ⟨index, items, rfl, same, within⟩
  · cases impossible
  · cases same
    exact .item rfl reached within (Node.isReadable_of_partAt reachedAgain read) grafted

theorem placed_in_member (reached : document.at? front = some parent) (notList : ∀ items, parent ≠ .list items)
    (fresh : rest ≠ [] → parent.part? part = none)
    (created : createParents root front (part :: rest) = .ok edits)
    (made : Edit.applyAll (edits ++ [.add (tokensOf (front ++ part :: rest)) value]) document =
      .ok after) : Placed document (front ++ part :: rest) value after := by
  have place := tokensOf_name front part
  have step : tokensOf (front ++ [part]) = tokensOf front ++ [part.token] := tokensOf_append ..
  cases rest with
  | nil =>
      cases created
      obtain ⟨result, added, same⟩ := Edit.applyAll_cons_ok made
      cases same
      rw [step, Edit.add_eq_editAt] at added
      have readable := isReadable_of_edited reached added
      rw [← Edit.add_eq_editAt, ← step, ← place] at added
      obtain ⟨grafted, members, rfl⟩ := Edit.add_name_ok reached notList added
      exact .member rfl reached (fun impossible => absurd rfl impossible) readable grafted
  | cons next rest =>
      obtain ⟨_, later, continued, rfl⟩ := createParents_cons_ok created
      obtain ⟨between, added, made⟩ := Edit.applyAll_cons_ok made
      rw [step, Edit.add_eq_editAt] at added
      have readable := isReadable_of_edited reached added
      rw [← Edit.add_eq_editAt, ← step, ← place] at added
      obtain ⟨rfl, members, rfl⟩ := Edit.add_name_ok reached notList added
      have opened := Node.isOpen_member part.token reached
      have empty : (Node.graft (.object []) (front ++ [.name part.token]) document).at?
          (front ++ [.name part.token]) = some (.object []) := Node.at?_graft_self opened
      rw [createParents_tokens place.symm] at continued
      rw [tokensOf_split] at made
      obtain ⟨grafted, _⟩ := Edit.applyAll_created empty
        (fun items impossible => nomatch impossible) (fun _ => rfl) continued made
      refine .member rfl reached fresh readable ?_
      rw [grafted, Node.graft_append, empty, Option.getD_some, Node.graft_graft]
      rfl

theorem Change.set_placed (kind : change.kind = .set) (named : document.isNamed = true)
    (forward : ∀ part ∈ way, isForward part = true)
    (located : change.locate document = .ok way) (applied : change.apply document = .ok after) :
    Placed document way change.value after := by
  obtain ⟨edits, planned, made⟩ := Change.apply_ok applied
  by_cases empty : way = []
  · subst empty
    rw [Change.plan, kind, Change.planSet, located] at planned
    cases planned
    cases made
    exact .whole rfl rfl
  obtain ⟨parents, found?, parent?, opened, looked, above, target⟩ :=
    Change.plan_set_ok kind empty located planned
  obtain ⟨root, ensured⟩ : ∃ root, ensureParents root document [] way = .ok parents := by
    cases way with
    | nil => exact absurd rfl empty
    | cons root way => exact ⟨root, opened⟩
  obtain ⟨front, part, rest, parent, rfl, reached, created, stops⟩ :=
    ensureParents_stops named forward empty ensured
  have behind : ∀ steps, document.lookup? (front ++ steps) = parent.lookup? steps :=
    Node.lookup?_append reached
  cases rest with
  | nil =>
      rw [List.dropLast_concat, ← List.append_nil front, lookupFor, behind] at above
      cases above
      rw [lookupFor, behind] at looked
      rcases target with ⟨items, child, isList, rfl, rfl⟩ | ⟨notList, rfl⟩
      · cases isList
        cases created
        obtain ⟨result, replaced, same⟩ := Edit.applyAll_cons_ok made
        cases same
        have stepped := Node.part?_of_forward (Node.isNamed_of_at? named reached)
          (forward part (by simp)) (Node.child?_of_lookup? (mapError_ok looked))
        exact placed_in_item reached stepped replaced
      · exact placed_in_member reached
          (fun items isList => notList items (congrArg some isList))
          (fun impossible => absurd rfl impossible) created made
  | cons next rest =>
      obtain ⟨object, missing⟩ := stops (List.cons_ne_nil next rest)
      have nowhere : lookupFor document (front ++ part :: next :: rest).dropLast = .ok none := by
        rw [List.dropLast_append_of_ne_nil (List.cons_ne_nil _ _), List.dropLast_cons_cons, lookupFor,
          behind, Node.lookup?, missing]
        rfl
      cases above.symm.trans nowhere
      rcases target with ⟨_, _, impossible, _⟩ | ⟨_, rfl⟩
      · cases impossible
      · refine placed_in_member reached ?_ (fun _ => Node.part?_of_missing missing) created
          made
        rintro items rfl
        cases object

/-! ## Beside the value -/

/-- Whether a pointer leads into what a way makes anew: the member of an object under the digits of
a position on the way. -/
def MadeAnew (document : Node) (way : List Part) (path : List String) : Prop :=
  ∃ front index rest members, way = front ++ .position index :: rest ∧
    document.at? front = some (.object members) ∧
    tokensOf (front ++ [.position index]) <+: path

/-- A way that steps by a position into an object leads nowhere from there on. -/
theorem eq_of_position_in_object {other behind : List Part} {index : Int} {members : Members}
    (split : front ++ part :: rest = other ++ .position index :: behind)
    (reached : document.at? front = some parent)
    (fresh : rest ≠ [] → parent.part? part = none)
    (owner : document.at? other = some (.object members)) :
    front = other ∧ part = .position index := by
  rcases List.append_eq_append_iff.mp split with ⟨more, longer, same⟩ | ⟨more, longer, same⟩
  · cases more with
    | nil =>
        rw [List.append_nil] at longer
        cases same
        exact ⟨longer.symm, rfl⟩
    | cons step more =>
        obtain ⟨rfl, rfl⟩ := List.cons.inj same
        rw [longer, Node.at?_append_of_some reached, Node.at?_cons, fresh (by simp)] at owner
        cases owner
  · cases more with
    | nil =>
        rw [List.append_nil] at longer
        cases same
        exact ⟨longer, rfl⟩
    | cons step more =>
        obtain ⟨rfl, _⟩ := List.cons.inj same
        have stepped : (Node.object members).part? (.position index) = none := by
          cases index <;> rfl
        rw [longer, Node.at?_append_of_some owner, Node.at?_cons, stepped] at reached
        cases reached

namespace Placed

variable (placed : Placed document way value after)

include placed

theorem reads_value : after.partAt (tokensOf way) = .ok value := by
  cases placed with
  | whole empty result =>
      subst empty result
      rfl
  | item split owner within readable result =>
      subst result
      refine Node.partAt_of_readable readable (Node.at?_graft_self ?_)
      rw [split, Node.isOpen_append owner, Node.isOpen, Bool.and_eq_true]
      exact ⟨decide_eq_true within, rfl⟩
  | @member front part rest members split owner fresh readable result =>
      subst split result
      have opened := Node.isOpen_member part.token owner
      have inside := Node.isOpen_names (tokensOf rest)
      rw [tokensOf_split]
      refine Node.partAt_of_readable ?_ ?_
      · simp only [List.append_assoc, List.forall_mem_append, List.forall_mem_cons]
        exact ⟨readable, ⟨rfl, List.forall_mem_nil _⟩, List.forall_mem_map.mpr fun _ _ => rfl⟩
      · rw [Node.at?_append_of_some (Node.at?_graft_self opened)]
        exact Node.at?_graft_self inside

theorem keeps_iff {kept : Node} (read : document.partAt path = .ok kept)
    (aside : ¬ path <+: tokensOf way) (apart : ¬ tokensOf way <+: path) :
    after.partAt path = .ok kept ↔ ¬ MadeAnew document way path := by
  cases placed with
  | whole empty result =>
      subst empty
      exact absurd List.nil_prefix apart
  | @item front index items split owner within readable result =>
      refine iff_of_true (result ▸ Node.partAt_graft_beside read apart aside) ?_
      rintro ⟨other, position, behind, members, again, object, _⟩
      obtain ⟨rfl, _⟩ := eq_of_position_in_object (split.symm.trans again) owner
        (fun impossible => absurd rfl impossible) object
      cases owner.symm.trans object
  | @member front part rest members split owner fresh readable result =>
      have place := tokensOf_name front part
      have whole : tokensOf way = tokensOf (front ++ [part]) ++ tokensOf rest := by
        rw [split, tokensOf_append, tokensOf_append, List.append_assoc]
        rfl
      by_cases inside : tokensOf (front ++ [part]) <+: path
      · obtain ⟨more, rfl⟩ := inside
        have some_left : rest ≠ [] := by
          rintro rfl
          rw [whole, tokensOf, tokensOf, List.map_nil, List.append_nil] at apart
          exact apart (List.prefix_append ..)
        refine iff_of_false (fun kept => ?_) (not_not.mpr ?_)
        · -- what is made anew holds nothing but the value
          have opened := Node.isOpen_member part.token owner
          rw [result, ← place, Node.partAt_append] at kept
          obtain ⟨made, standing, below⟩ := bind_ok kept
          rw [Node.partAt_of_at? (Node.at?_graft_self opened) standing] at below
          rw [whole, List.prefix_append_right_inj] at aside apart
          exact (Node.prefix_of_partAt_created below).elim aside apart
        · cases part with
          | position index => exact ⟨front, index, rest, members, split, owner, List.prefix_append ..⟩
          | name name =>
              -- under a name that leads nowhere nothing was
              rw [tokensOf_append, List.append_assoc, Node.partAt_append] at read
              obtain ⟨found, standing, below⟩ := bind_ok read
              rw [Node.partAt_of_at? owner standing] at below
              have missing : Members.get? members name = none := fresh some_left
              have refused : (Node.object members).shape.child name = .error .conflict := by
                simp only [Node.shape, Shape.child, missing]
              obtain ⟨child, stepped, _⟩ := bind_ok below
              cases refused.symm.trans stepped
      · refine iff_of_true ?_ ?_
        · rw [result]
          refine Node.partAt_graft_beside read (place ▸ inside) fun above => aside ?_
          exact whole ▸ above.trans (place ▸ List.prefix_append ..)
        · rintro ⟨other, position, behind, others, again, object, below⟩
          obtain ⟨rfl, rfl⟩ := eq_of_position_in_object (split.symm.trans again) owner fresh object
          exact inside below

end Placed

/-- A value that is set under names and positions is found at its pointer. What was found at a
pointer beside it, neither above nor below, is found there again, unless the way steps by a
position into an object and the pointer leads into the member under its digits. -/
theorem set_keeps_beside_iff (kind : change.kind = .set) (named : document.isNamed = true)
    (forward : ∀ part ∈ way, isForward part = true)
    (address : Address.ofText change.address = .ok (way.map partSelector))
    (applied : change.apply document = .ok after) :
    after.partAt (tokensOf way) = .ok change.value ∧
      ∀ path kept, document.partAt path = .ok kept → ¬ path <+: tokensOf way →
        ¬ tokensOf way <+: path →
        (after.partAt path = .ok kept ↔ ¬ MadeAnew document way path) := by
  have located : change.locate document = .ok way :=
    congrArg (Except.mapError _) (Address.locate_parts address forward document)
  have placed := Change.set_placed kind named forward located applied
  exact ⟨placed.reads_value, fun path kept => placed.keeps_iff⟩

def underDigit : Node :=
  .object [(.str "a", .object [(.str "0", .object [(.str "b", .int 1), (.str "c", .int 2)]),
    (.str "d", .int 4)])]

theorem set_keeps_beside_iff_digit :
    ∃ after, (Change.mk .set "$.a[0].b" none none (.int 3)).apply underDigit = .ok after ∧
      after.partAt ["a", "0", "b"] = .ok (.int 3) ∧
      underDigit.partAt ["a", "0", "c"] = .ok (.int 2) ∧
      after.partAt ["a", "0", "c"] ≠ .ok (.int 2) ∧ after.partAt ["a", "d"] = .ok (.int 4) := by
  have read : Address.ofText "$.a[0].b" =
      .ok ([Part.name "a", .position 0, .name "b"].map partSelector) := by
    decide +kernel
  have located : Address.locate underDigit "$.a[0].b" =
      .ok [.name "a", .position 0, .name "b"] :=
    Address.locate_parts read (by decide) underDigit
  have applied : (Change.mk .set "$.a[0].b" none none (.int 3)).apply underDigit =
      .ok (.object [(.str "a", .object [(.str "0", .object [(.str "b", .int 3)]),
        (.str "d", .int 4)])]) := by
    have planned : (Change.mk .set "$.a[0].b" none none (.int 3)).plan underDigit =
        .ok [.add ["a", "0"] (.object []), .add ["a", "0", "b"] (.int 3)] := by
      rw [Change.plan, Change.planSet, Change.locate, located]
      rfl
    exact Change.apply_of_plan planned rfl
  obtain ⟨stands, keeps⟩ := set_keeps_beside_iff rfl (by decide) (by decide) read applied
  have anew : MadeAnew underDigit [.name "a", .position 0, .name "b"] ["a", "0", "c"] :=
    ⟨[.name "a"], 0, [.name "b"], _, rfl, rfl, by decide⟩
  have apart : ¬ MadeAnew underDigit [.name "a", .position 0, .name "b"] ["a", "d"] := by
    rintro ⟨front, index, rest, members, split, owner, below⟩
    have reached : underDigit.at? [.name "a"] = some (.object
        [(.str "0", .object [(.str "b", .int 1), (.str "c", .int 2)]), (.str "d", .int 4)]) := rfl
    have split : [Part.name "a"] ++ .position 0 :: [.name "b"] =
        front ++ .position index :: rest := split
    obtain ⟨rfl, same⟩ := eq_of_position_in_object split reached (fun _ => rfl) owner
    cases same
    exact absurd below (by decide)
  refine ⟨_, applied, stands, rfl, fun kept => ?_, ?_⟩
  · exact (keeps _ _ rfl (by decide) (by decide)).mp kept anew
  · exact (keeps _ _ rfl (by decide) (by decide)).mpr apart

end ApiReview
