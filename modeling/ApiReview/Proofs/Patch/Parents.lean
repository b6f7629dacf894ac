import ApiReview.Proofs.Patch.Place

/-! Opening the way to a place. Objects are created for the names that are missing
at the end of a way, and nothing is created for a path item or an operation. -/

set_option autoImplicit false

namespace ApiReview

variable {anchor done way front rest : List Part} {root part : Part} {names : List String}
  {name : String} {node base found child document after value : Node} {edits : List Edit}

/-! ## Looking up -/

namespace Node

theorem child?_name (name : String) (node : Node) :
    node.child? (.name name) = .ok (node.part? (.name name)) := by
  cases node <;> rfl

theorem child?_of_part? (stepped : node.part? part = some child) :
    node.child? part = .ok (some child) := by
  rcases takes_cases (takes_of_part? stepped) with
    ⟨name, members, rfl, rfl⟩ | ⟨index, items, rfl, rfl, within⟩
  · exact congrArg Except.ok stepped
  · have read : items[index]? = some child := stepped
    have notBeyond : ¬ Int.ofNat items.length ≤ Int.ofNat index := by
      simp only [Int.ofNat_eq_natCast]
      omega
    have counted : itemAt? items (.ofNat index) = some child := by
      simp only [itemAt?, Int.ofNat_eq_natCast, if_pos (Int.natCast_nonneg index), Int.toNat_natCast,
        read]
    simp only [child?, if_neg notBeyond, counted]

theorem lookup?_append (reached : node.at? anchor = some base) (rest : List Part) :
    node.lookup? (anchor ++ rest) = base.lookup? rest := by
  induction anchor generalizing node with
  | nil =>
      cases reached
      rfl
  | cons part anchor ih =>
      obtain ⟨child, stepped, reached⟩ := Option.bind_eq_some_iff.mp reached
      rw [List.cons_append, lookup?, child?_of_part? stepped]
      exact ih reached

theorem lookup?_names_append (names : List String) (rest : List Part) (node : Node) :
    node.lookup? (names.map .name ++ rest) =
      match node.at? (names.map .name) with
      | some base => base.lookup? rest
      | none => .ok none := by
  induction names generalizing node with
  | nil => rfl
  | cons name names ih =>
      rw [List.map_cons, List.cons_append, lookup?, child?_name, at?_cons]
      cases node.part? (.name name) with
      | none => rfl
      | some child => exact ih child

theorem lookup?_names (names : List String) (node : Node) :
    node.lookup? (names.map .name) = .ok (node.at? (names.map .name)) := by
  have looked := lookup?_names_append names [] node
  rw [List.append_nil] at looked
  rw [looked]
  cases node.at? (names.map .name) <;> rfl

/-- Behind a part that exists, names are looked up as they are read. -/
theorem lookup?_anchored (reached : node.at? anchor = some base) (names : List String) :
    node.lookup? (anchor ++ names.map .name) = .ok (node.at? (anchor ++ names.map .name)) := by
  rw [lookup?_append reached, lookup?_names, at?_append_of_some reached]

theorem isOpen_names (names : List String) : (Node.object []).isOpen (names.map .name) = true := by
  induction names with
  | nil => rfl
  | cons name names ih =>
      rw [List.map_cons, isOpen, Bool.and_eq_true]
      exact ⟨rfl, ih⟩

theorem hasMember_of_child?_none {members : Members}
    (missing : (Node.object members).child? part = .ok none) :
    hasMember (.object members) part = false := by
  cases part with
  | name name =>
      have absent := Except.ok.inj missing
      simp only [hasMember, Members.has, absent, Option.isSome_none]
  | position index =>
      have absent := Except.ok.inj missing
      simp only [hasMember, absent, Option.isSome_none]

end Node

/-! ## Planning -/

theorem createParents_cons_ok {next : Part} {rest : List Part}
    (created : createParents root done (part :: next :: rest) = .ok edits) :
    isProtected root done.length = false ∧
      ∃ later, createParents root (done ++ [part]) (next :: rest) = .ok later ∧
        edits = .add (tokensOf (done ++ [part])) (.object []) :: later := by
  rw [createParents] at created
  · split at created
    · cases created
    · rename_i unprotected
      obtain ⟨later, continued, shape⟩ := bind_ok created
      exact ⟨by simpa using unprotected, later, continued, (Except.ok.inj shape).symm⟩
  · nofun

/-- A walk goes on in the part that exists, or creates what is missing from here. -/
theorem ensureParents_cons_ok {next : Part} {rest : List Part}
    (planned : ensureParents root node done (part :: next :: rest) = .ok edits) :
    (∃ child, node.child? part = .ok (some child) ∧
        ensureParents root child (done ++ [part]) (next :: rest) = .ok edits) ∨
      (node.child? part = .ok none ∧ node.isObject = true ∧
        createParents root done (part :: next :: rest) = .ok edits) := by
  rw [ensureParents] at planned
  · split at planned
    · cases planned
    rename_i allowed
    obtain ⟨child?, looked, planned⟩ := bind_ok planned
    have looked := mapError_ok looked
    cases child? with
    | some child =>
        refine .inl ⟨child, looked, ?_⟩
        cases child with
        | object members => exact planned
        | list items => exact planned
        | _ => cases planned
    | none =>
        cases node with
        | object members =>
            refine .inr ⟨looked, rfl, ?_⟩
            have unprotected : isProtected root done.length = false := by
              simpa [Node.hasMember_of_child?_none looked] using allowed
            rw [createParents]
            · rw [unprotected]
              exact planned
            · nofun
        | _ => cases planned
  · nofun

/-- Walking to a place passes what exists on the way. -/
theorem ensureParents_anchored (reached : node.at? anchor = some base) (some_left : rest ≠ [])
    (planned : ensureParents root node done (anchor ++ rest) = .ok edits) :
    ensureParents root base (done ++ anchor) rest = .ok edits := by
  induction anchor generalizing node done with
  | nil =>
      cases reached
      rwa [List.append_nil]
  | cons part anchor ih =>
      obtain ⟨child, stepped, reached⟩ := Option.bind_eq_some_iff.mp reached
      obtain ⟨next, more, split⟩ : ∃ next more, anchor ++ rest = next :: more :=
        List.exists_cons_of_ne_nil (by simp [some_left])
      rw [List.cons_append, split] at planned
      have looked := Node.child?_of_part? stepped
      rcases ensureParents_cons_ok planned with ⟨found, passed, planned⟩ | ⟨missing, _⟩
      · rw [looked] at passed
        cases passed
        rw [← split] at planned
        simpa using ih reached planned
      · rw [looked] at missing
        cases missing

/-- The walk along names stops where the first is missing, or in front of the last. -/
theorem ensureParents_names_ok (nonempty : names ≠ [])
    (planned : ensureParents root node done (names.map .name) = .ok edits) :
    ∃ front name rest parent, names = front ++ name :: rest ∧
      node.at? (front.map .name) = some parent ∧
      createParents root (done ++ front.map .name) ((name :: rest).map .name) = .ok edits ∧
      (rest ≠ [] → parent.isObject = true ∧ parent.part? (.name name) = none) := by
  induction names generalizing node done with
  | nil => exact absurd rfl nonempty
  | cons name names ih =>
      cases names with
      | nil => exact ⟨[], name, [], node, rfl, rfl, planned, fun impossible => absurd rfl impossible⟩
      | cons next names =>
          rcases ensureParents_cons_ok planned with ⟨child, passed, continued⟩ |
              ⟨missing, object, created⟩
          · rw [Node.child?_name] at passed
            obtain ⟨front, last, rest, parent, split, reached, created, stops⟩ :=
              ih (List.cons_ne_nil next names) continued
            refine ⟨name :: front, last, rest, parent, congrArg (List.cons name) split, ?_, ?_,
              stops⟩
            · rw [List.map_cons, Node.at?_cons, Except.ok.inj passed, Option.bind_some, reached]
            · simpa using created
          · rw [Node.child?_name] at missing
            exact ⟨[], name, next :: names, node, rfl, rfl, by simpa using created,
              fun _ => ⟨object, Except.ok.inj missing⟩⟩

/-- What is created on the way to a place is neither a path item nor an operation. -/
theorem isProtected_of_createParents {rest : List Part}
    (created : createParents root done (part :: rest) = .ok edits) {offset : Nat}
    (within : offset < rest.length) : isProtected root (done.length + offset) = false := by
  induction rest generalizing done part edits offset with
  | nil => cases within
  | cons next rest ih =>
      obtain ⟨unprotected, later, continued, _⟩ := createParents_cons_ok created
      cases offset with
      | zero => exact unprotected
      | succ offset =>
          have further := ih continued (Nat.lt_of_succ_lt_succ within)
          rw [List.length_append, List.length_singleton] at further
          rwa [Nat.add_comm offset 1, ← Nat.add_assoc]

/-! ## Carrying out -/

/-- A document with edits made, one after the other. -/
def Edit.applyAll (edits : List Edit) (document : Node) : Except EditError Node :=
  edits.foldlM (fun document edit => edit.apply document) document

theorem Edit.applyAll_cons_ok {edit : Edit} (made : applyAll (edit :: edits) document = .ok after) :
    ∃ next, edit.apply document = .ok next ∧ applyAll edits next = .ok after := by
  rw [applyAll, List.foldlM_cons] at made
  exact bind_ok made

theorem Node.isOpen_created {rest : List String} {members : Members}
    (reached : document.at? done = some (.object members))
    (absent : rest ≠ [] → (Node.object members).part? (.name name) = none) :
    document.isOpen (done ++ (name :: rest).map .name) = true := by
  rw [Node.isOpen_append reached, List.map_cons, Node.isOpen, Bool.and_eq_true]
  refine ⟨rfl, ?_⟩
  cases rest with
  | nil => rfl
  | cons next rest =>
      rw [absent (List.cons_ne_nil next rest), Option.getD_none]
      exact Node.isOpen_names (next :: rest)

/-- Adding the objects that are missing on a way and then the value at its end grafts the value. -/
theorem Edit.applyAll_created {rest : List String} (reached : document.at? done = some base)
    (notList : ∀ items, base ≠ .list items)
    (absent : rest ≠ [] → base.part? (.name name) = none)
    (created : createParents root done ((name :: rest).map .name) = .ok edits)
    (made : applyAll (edits ++ [.add (tokensOf (done ++ (name :: rest).map .name)) value]) document =
      .ok after) :
    after = Node.graft value (done ++ (name :: rest).map .name) document ∧
      document.isOpen (done ++ (name :: rest).map .name) = true := by
  induction rest generalizing done name base document edits with
  | nil =>
      cases created
      obtain ⟨result, applied, rest⟩ := applyAll_cons_ok made
      cases rest
      obtain ⟨shape, members, rfl⟩ := add_name_ok reached notList applied
      exact ⟨shape, Node.isOpen_created reached absent⟩
  | cons next rest ih =>
      obtain ⟨_, later, continued, rfl⟩ := createParents_cons_ok created
      obtain ⟨between, applied, made⟩ := applyAll_cons_ok made
      obtain ⟨rfl, members, rfl⟩ := add_name_ok reached notList applied
      have assembled : done ++ (name :: next :: rest).map Part.name =
          (done ++ [.name name]) ++ (next :: rest).map Part.name := by simp
      have empty : (Node.graft (.object []) (done ++ [.name name]) document).at?
          (done ++ [.name name]) = some (.object []) := by
        refine Node.at?_graft_self ?_
        rw [Node.isOpen_append reached]
        rfl
      have missing : document.at? (done ++ [.name name]) = none := by
        rw [Node.at?_append_of_some reached, Node.at?_singleton]
        exact absent (List.cons_ne_nil next rest)
      rw [assembled] at made
      obtain ⟨grafted, _⟩ := ih empty (fun items impossible => nomatch impossible)
        (fun _ => rfl) continued made
      refine ⟨?_, Node.isOpen_created reached absent⟩
      let more := (next :: rest).map Part.name
      calc
        after = Node.graft value (done ++ [.name name] ++ more)
            (Node.graft (.object []) (done ++ [.name name]) document) := grafted
        _ = Node.graft (Node.graft value more (.object [])) (done ++ [.name name]) document := by
          rw [Node.graft_append, empty, Option.getD_some, Node.graft_graft]
        _ = Node.graft value (done ++ [.name name] ++ more) document :=
          (Node.graft_append.trans (by rw [missing, Option.getD_none])).symm
        _ = Node.graft value (done ++ (name :: next :: rest).map .name) document := by
          rw [assembled]

end ApiReview
