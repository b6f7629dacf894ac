import ApiReview.Proofs.Patch.Parents

/-! What each kind of change makes of a document, when it is not refused. The
address of the change leads through a part that exists, the anchor, and from
there through names, which is the case of every address that a fix is built
with. -/

set_option autoImplicit false

namespace ApiReview

variable {change : Change} {anchor : List Part} {names : List String} {last : String}
  {document base parent after : Node}

/-! ## The way to a place -/

/-- A plan that opens the way to a place and adds a value there grafts the value. -/
theorem carryOut_parentEdits {value : Node} {edits : List Edit} (nonempty : names ≠ [])
    (reached : document.at? anchor = some base)
    (planned : parentEdits document (anchor ++ names.map .name) = .ok edits)
    (notList : ∀ items, document.at? (anchor ++ names.dropLast.map .name) ≠ some (.list items))
    (made : Edit.applyAll (edits ++ [.add (tokensOf (anchor ++ names.map .name)) value]) document =
      .ok after) :
    after = Node.graft value (anchor ++ names.map .name) document ∧
      document.isOpen (anchor ++ names.map .name) = true := by
  obtain ⟨root, more, split⟩ : ∃ root more, anchor ++ names.map Part.name = root :: more :=
    List.exists_cons_of_ne_nil (by simp [nonempty])
  have ensured : ensureParents root document [] (anchor ++ names.map .name) = .ok edits := by
    rw [split] at planned ⊢
    exact planned
  have ensured := ensureParents_anchored reached (by simpa using nonempty) ensured
  rw [List.nil_append] at ensured
  obtain ⟨front, name, rest, parent, rfl, parentReached, created, stops⟩ :=
    ensureParents_names_ok nonempty ensured
  have whole : anchor ++ (front ++ name :: rest).map Part.name =
      (anchor ++ front.map .name) ++ (name :: rest).map .name := by simp
  have above : document.at? (anchor ++ front.map .name) = some parent := by
    rw [Node.at?_append_of_some reached, parentReached]
  have parentNotList : ∀ items, parent ≠ .list items := by
    rintro items rfl
    cases rest with
    | nil => exact notList items (by simpa using above)
    | cons next rest =>
        have object := (stops (List.cons_ne_nil next rest)).1
        cases object
  rw [whole] at made ⊢
  exact Edit.applyAll_created above parentNotList (fun some_left => (stops some_left).2) created
    made

/-- Objects below the paths are created at the end of a way alone, in front of which path item and
operation exist. -/
theorem depth_of_createParents {front rest : List Part} {part : Part} {edits : List Edit}
    (created : createParents (.name "paths") front (part :: rest) = .ok edits) {depth : Nat}
    (deep : 2 ≤ depth) (shallow : depth ≤ 3) (within : depth ≤ front.length + rest.length) :
    depth ≤ front.length := by
  have apart : ∀ offset < rest.length, front.length + offset = 0 ∨ 3 ≤ front.length + offset := by
    intro offset inside
    have free := isProtected_of_createParents created inside
    simp only [isProtected, decide_true, Bool.true_and, Bool.and_eq_false_iff,
      decide_eq_false_iff_not] at free
    omega
  have first := apart 0
  have second := apart 1
  omega

theorem Node.at?_take {way : List Part} {found : Node} (reached : document.at? way = some found)
    (size : Nat) : ∃ between, document.at? (way.take size) = some between := by
  rw [← List.take_append_drop size way] at reached
  obtain ⟨between, above, _⟩ := Node.at?_of_append reached
  exact ⟨between, above⟩

/-- Nothing is created in place of a path item or an operation: what lies above a place below
the paths exists, down to the operation. -/
theorem parentEdits_protected {item method : String} {more : List String} {edits : List Edit}
    (planned : parentEdits document (("paths" :: item :: method :: more).map .name) = .ok edits) :
    (∃ found, document.at? [.name "paths", .name item] = some found) ∧
      (more ≠ [] →
        ∃ found, document.at? [.name "paths", .name item, .name method] = some found) := by
  have ensured : ensureParents (.name "paths") document []
      (("paths" :: item :: method :: more).map .name) = .ok edits := planned
  obtain ⟨front, name, rest, parent, split, reached, created, _⟩ :=
    ensureParents_names_ok (by simp) ensured
  have count := congrArg List.length split
  simp only [List.length_cons, List.length_append] at count
  have reachable : ∀ depth, 2 ≤ depth → depth ≤ 3 → depth ≤ front.length + rest.length →
      ∃ found, document.at? ((("paths" :: item :: method :: more).take depth).map .name) =
        some found := by
    intro depth deep shallow within
    have inside : depth ≤ front.length := by
      simpa using depth_of_createParents created deep shallow (by simpa using within)
    have cut : ("paths" :: item :: method :: more).take depth = front.take depth := by
      rw [split, List.take_append_of_le_length inside]
    rw [cut, List.map_take]
    exact Node.at?_take reached depth
  refine ⟨reachable 2 (by omega) (by omega) (by omega), fun some_left => ?_⟩
  have left := List.length_pos_of_ne_nil some_left
  exact reachable 3 (by omega) (by omega) (by omega)

/-! ## Kinds of change -/

theorem Change.apply_ok (applied : change.apply document = .ok after) :
    ∃ edits, change.plan document = .ok edits ∧ Edit.applyAll edits document = .ok after := by
  obtain ⟨edits, planned, made⟩ := bind_ok applied
  exact ⟨edits, planned, mapError_ok made⟩

theorem Change.apply_of_plan {edits : List Edit} (planned : change.plan document = .ok edits)
    (made : Edit.applyAll edits document = .ok after) : change.apply document = .ok after := by
  have carried : change.carryOut edits document = .ok after := by
    rw [Change.carryOut]
    exact congrArg (Except.mapError _) made
  rw [Change.apply, show Editable.toNode document = document from rfl, planned]
  exact carried

theorem lookupFor_anchored (reached : document.at? anchor = some base) (names : List String) :
    lookupFor document (anchor ++ names.map .name) =
      .ok (document.at? (anchor ++ names.map .name)) := by
  rw [lookupFor, Node.lookup?_anchored reached]
  rfl

/-- A value is set by opening the way to it and adding it, unless it goes into a list. -/
theorem Change.plan_set_of_lookup {way : List Part} {found? parent? : Option Node}
    {edits : List Edit} (kind : change.kind = .set) (some_step : way ≠ [])
    (located : change.locate document = .ok way) (looked : lookupFor document way = .ok found?)
    (above : lookupFor document way.dropLast = .ok parent?)
    (notList : ∀ items, parent? ≠ some (.list items)) :
    change.plan document = .ok edits ↔ ∃ parents, parentEdits document way = .ok parents ∧
      edits = parents ++ [.add (tokensOf way) change.value] := by
  have some_step : way.isEmpty = false := List.isEmpty_eq_false_iff.mpr some_step
  rw [Change.plan, kind, Change.planSet, located]
  simp only [bind, Except.bind, some_step, looked, above, Bool.false_eq_true, if_false]
  cases parentEdits document way with
  | error error => simp
  | ok parents =>
      simp only [Except.ok.injEq, exists_eq_left']
      exact eq_comm

/-- A value is set under a name by opening the way to it and adding it, unless a list is there. -/
theorem Change.plan_set_iff {edits : List Edit} (kind : change.kind = .set) (nonempty : names ≠ [])
    (located : change.locate document = .ok (anchor ++ names.map .name))
    (reached : document.at? anchor = some base) :
    change.plan document = .ok edits ↔
      (∀ items, document.at? (anchor ++ names.dropLast.map .name) ≠ some (.list items)) ∧
      ∃ parents, parentEdits document (anchor ++ names.map .name) = .ok parents ∧
        edits = parents ++ [.add (tokensOf (anchor ++ names.map .name)) change.value] := by
  have some_step : anchor ++ names.map Part.name ≠ [] := by simp [nonempty]
  have looked := lookupFor_anchored reached names
  have dropped : (anchor ++ names.map Part.name).dropLast = anchor ++ names.dropLast.map .name := by
    rw [List.dropLast_append_of_ne_nil (by simp [nonempty]), List.map_dropLast]
  have above : lookupFor document (anchor ++ names.map Part.name).dropLast =
      .ok (document.at? (anchor ++ names.dropLast.map .name)) := by
    rw [dropped]
    exact lookupFor_anchored reached names.dropLast
  by_cases isList : ∃ items, document.at? (anchor ++ names.dropLast.map .name) =
      some (.list items)
  · obtain ⟨items, isList⟩ := isList
    have missing : document.at? (anchor ++ names.map .name) = none := by
      rw [← List.dropLast_append_getLast nonempty, List.map_append, ← List.append_assoc,
        Node.at?_append_of_some isList]
      rfl
    refine iff_of_false ?_ fun planned => planned.1 items isList
    rw [Change.plan, kind, Change.planSet, located]
    simp only [bind, Except.bind, List.isEmpty_eq_false_iff.mpr some_step, looked, above, missing,
      isList, Bool.false_eq_true, if_false]
    cases parentEdits document (anchor ++ names.map .name) <;> nofun
  · rw [not_exists] at isList
    rw [plan_set_of_lookup kind some_step located looked above isList]
    exact ⟨fun planned => ⟨isList, planned⟩, fun planned => planned.2⟩

/-- A value that is set stands at its place, and the way there was open. -/
theorem Change.set_ok (kind : change.kind = .set) (nonempty : names ≠ [])
    (located : change.locate document = .ok (anchor ++ names.map .name))
    (reached : document.at? anchor = some base) (applied : change.apply document = .ok after) :
    after = Node.graft change.value (anchor ++ names.map .name) document ∧
      document.isOpen (anchor ++ names.map .name) = true ∧
      ∃ edits, parentEdits document (anchor ++ names.map .name) = .ok edits := by
  obtain ⟨edits, planned, made⟩ := Change.apply_ok applied
  obtain ⟨notList, parents, opened, rfl⟩ :=
    (Change.plan_set_iff kind nonempty located reached).mp planned
  obtain ⟨grafted, openWay⟩ := carryOut_parentEdits nonempty reached opened notList made
  exact ⟨grafted, openWay, parents, opened⟩

/-- A key is renamed when it is there and the new one is not; when it is the other way round,
nothing needs to be done. -/
theorem Change.plan_rename_iff {old new : String} {edits : List Edit}
    (kind : change.kind = .renameKey) (source : change.from? = some old)
    (target : change.to? = some new)
    (located : change.locate document = .ok (anchor ++ names.map .name))
    (reached : document.at? anchor = some base) :
    change.plan document = .ok edits ↔
      ∃ members, document.at? (anchor ++ names.map .name) = some (.object members) ∧
        ((Members.has members old = false ∧ Members.has members new = true ∧ edits = []) ∨
          (Members.has members old = true ∧ Members.has members new = false ∧
            edits = [.renameKey (tokensOf (anchor ++ names.map .name)) old new])) := by
  rw [Change.plan, kind, Change.planRename, source, target, located]
  simp only [bind, Except.bind, lookupFor_anchored reached]
  cases found : document.at? (anchor ++ names.map .name) with
  | none => simp [Change.refuse]
  | some place =>
      cases place with
      | object members =>
          simp only [Option.some.injEq, Node.object.injEq, exists_eq_left']
          cases Members.has members old with
          | false =>
              cases Members.has members new with
              | false => simp [Change.refuse]
              | true =>
                  simp only [Bool.not_false, Bool.and_self, if_true, Except.ok.injEq, true_and,
                    Bool.false_eq_true, Bool.true_eq_false, false_and, or_false]
                  exact eq_comm
          | true =>
              cases Members.has members new with
              | false =>
                  simp only [Bool.not_true, Bool.and_self, if_false, Except.ok.injEq, true_and,
                    Bool.false_eq_true, Bool.true_eq_false, false_and, false_or]
                  exact eq_comm
              | true => simp [Change.refuse]
      | _ => simp [Change.refuse]

/-- A key that is renamed is renamed in place; one that is renamed already is left alone. -/
theorem Change.rename_ok {old new : String} (kind : change.kind = .renameKey)
    (source : change.from? = some old) (target : change.to? = some new)
    (located : change.locate document = .ok (anchor ++ names.map .name))
    (reached : document.at? anchor = some base) (applied : change.apply document = .ok after) :
    ∃ members, document.at? (anchor ++ names.map .name) = some (.object members) ∧
      ((Members.has members new = true ∧ after = document) ∨
        (Members.has members old = true ∧ Members.has members new = false ∧
          after = Node.graft (.object (Members.renameKey (.str old) (.str new) members))
            (anchor ++ names.map .name) document)) := by
  obtain ⟨edits, planned, made⟩ := Change.apply_ok applied
  obtain ⟨members, found, ⟨_, hasNew, rfl⟩ | ⟨hasOld, hasNew, rfl⟩⟩ :=
    (Change.plan_rename_iff kind source target located reached).mp planned
  · cases made
    exact ⟨members, found, .inl ⟨hasNew, rfl⟩⟩
  · obtain ⟨result, renamed, rest⟩ := Edit.applyAll_cons_ok made
    cases rest
    exact ⟨members, found, .inr ⟨hasOld, hasNew, Edit.renameKey_ok found renamed⟩⟩

/-- A removal at names is planned for what is there, and for nothing else. -/
theorem Change.plan_remove_names (kind : change.kind = .remove)
    (located : change.locate document = .ok (names.map .name)) :
    change.plan document = .ok (match document.at? (names.map .name) with
      | some _ => [.remove (tokensOf (names.map .name))]
      | none => []) := by
  have looked : lookupFor document (names.map .name) = .ok (document.at? (names.map .name)) :=
    lookupFor_anchored Node.at?_nil names
  rw [Change.plan, kind, Change.planRemove, located]
  simp only [bind, Except.bind, looked]
  cases document.at? (names.map .name) <;> rfl

/-- A removal at names is never refused: a member that is there goes, and where none is the
document stays as it was. -/
theorem Change.remove_names (kind : change.kind = .remove)
    (located : change.locate document = .ok ((names ++ [last]).map .name)) :
    ∃ after, change.apply document = .ok after ∧
      ((document.at? ((names ++ [last]).map .name) = none ∧ after = document) ∨
        ∃ members, document.at? (names.map .name) = some (.object members) ∧
          after = Node.graft (.object (Members.erase (.str last) members)) (names.map .name)
            document) := by
  have planned := Change.plan_remove_names kind located
  cases found : document.at? ((names ++ [last]).map .name) with
  | none =>
      rw [found] at planned
      refine ⟨document, ?_, .inl ⟨rfl, rfl⟩⟩
      exact Change.apply_of_plan planned rfl
  | some value =>
      rw [found] at planned
      have whole : (names ++ [last]).map Part.name = names.map .name ++ [.name last] := by simp
      rw [whole] at found
      obtain ⟨members, above, read⟩ := Node.exists_object_of_member found
      have present : Members.has members last = true := by
        rw [Members.has, read]
        rfl
      refine ⟨_, Change.apply_of_plan planned ?_, .inr ⟨members, above, rfl⟩⟩
      rw [Edit.applyAll, List.foldlM_cons, Edit.remove_names above present]
      rfl

/-! ## Adding and merging -/

/-- A list with an item more, unless it has the same one already. -/
def keepNew (kept : List Node) (item : Node) : List Node :=
  if kept.any (sameItem item) then kept else kept ++ [item]

theorem append_newItems (present items : List Node) :
    present ++ newItems present items = items.foldl keepNew present := by
  have folded : ∀ known fresh : List Node, known = present ++ fresh →
      present ++ (items.foldl (fun lists item =>
        if lists.1.any (sameItem item) then (lists.1, lists.2)
        else (lists.1 ++ [item], lists.2 ++ [item])) (known, fresh)).2 =
          items.foldl keepNew known := by
    induction items with
    | nil => exact fun known fresh shape => shape.symm
    | cons item items ih =>
        intro known fresh shape
        rw [List.foldl_cons, List.foldl_cons, keepNew]
        cases seen : known.any (sameItem item) with
        | true => simpa [seen] using ih known fresh shape
        | false =>
            simpa [seen] using ih (known ++ [item]) (fresh ++ [item]) (by simp [shape])
  exact folded present [] (List.append_nil present).symm

theorem subset_foldl_keepNew (kept items : List Node) : kept ⊆ items.foldl keepNew kept := by
  induction items generalizing kept with
  | nil => exact List.Subset.refl kept
  | cons item items ih =>
      refine List.Subset.trans ?_ (ih (keepNew kept item))
      rw [keepNew]
      split
      · exact List.Subset.refl kept
      · exact List.subset_append_left ..

/-- Every item that is merged into a list has the same one in it afterwards. -/
theorem covered_by_foldl_keepNew (kept : List Node) {items : List Node} {item : Node}
    (among : item ∈ items) :
    ∃ found ∈ items.foldl keepNew kept, found = item ∨ sameItem item found = true := by
  induction items generalizing kept with
  | nil => cases among
  | cons first items ih =>
      rcases List.mem_cons.mp among with rfl | among
      · have inside := subset_foldl_keepNew (keepNew kept item) items
        rw [List.foldl_cons]
        cases seen : kept.any (sameItem item) with
        | true =>
            obtain ⟨found, here, same⟩ := List.any_eq_true.mp seen
            refine ⟨found, inside ?_, .inr same⟩
            rwa [keepNew, if_pos seen]
        | false =>
            refine ⟨item, inside ?_, .inl rfl⟩
            rw [keepNew, if_neg (by simp [seen])]
            exact List.mem_append_right _ (List.mem_singleton.mpr rfl)
      · exact ih _ among

theorem applyAll_appends {present fresh : List Node} {way : List Part}
    (reached : document.at? way = some (.list present))
    (made : Edit.applyAll (fresh.map (.add (tokensOf way ++ ["-"]))) document = .ok after) :
    after = Node.graft (.list (present ++ fresh)) way document := by
  induction fresh generalizing document present with
  | nil =>
      rw [List.append_nil, Node.graft_of_at? reached]
      exact (Except.ok.inj made).symm
  | cons item fresh ih =>
      obtain ⟨next, appended, made⟩ := Edit.applyAll_cons_ok made
      have shape := Edit.add_end_ok reached appended
      subst shape
      have grown := ih (Node.at?_graft_self (Node.isOpen_of_at? reached)) made
      rw [grown, Node.graft_graft, List.append_assoc, List.singleton_append]

/-- A change that adds to a place or merges into it. -/
def Change.Grows (change : Change) : Prop := change.kind = .add ∨ change.kind = .merge

/-- What is added or merged is put where nothing was, and becomes parts of what is there else. -/
theorem Change.plan_grows_ok {way : List Part} {edits : List Edit} (grows : change.Grows)
    (located : change.locate document = .ok way) (planned : change.plan document = .ok edits) :
    (∃ parents value, lookupFor document way = .ok none ∧ parentEdits document way = .ok parents ∧
      edits = parents ++ [.add (tokensOf way) value]) ∨
    ∃ found, lookupFor document way = .ok (some found) ∧
      ∀ edit ∈ edits, ∃ token value, edit = .add (tokensOf way ++ [token]) value := by
  rcases grows with kind | kind
  · rw [plan, kind] at planned
    obtain ⟨parts, same, planned⟩ := bind_ok planned
    cases located.symm.trans same
    obtain ⟨found?, looked, planned⟩ := bind_ok planned
    cases found? with
    | none =>
        obtain ⟨parents, opened, result⟩ := bind_ok planned
        exact .inl ⟨parents, _, looked, opened, (Except.ok.inj result).symm⟩
    | some found =>
        refine .inr ⟨found, looked, ?_⟩
        cases found with
        | list items =>
            dsimp only at planned
            split at planned
            · cases planned
              nofun
            · cases planned
              exact List.forall_mem_singleton.mpr ⟨_, _, rfl⟩
        | _ => cases planned
  · rw [plan, kind] at planned
    obtain ⟨parts, same, planned⟩ := bind_ok planned
    cases located.symm.trans same
    obtain ⟨found?, looked, planned⟩ := bind_ok planned
    cases found? with
    | none =>
        obtain ⟨parents, opened, result⟩ := bind_ok planned
        exact .inl ⟨parents, _, looked, opened, (Except.ok.inj result).symm⟩
    | some found =>
        refine .inr ⟨found, looked, ?_⟩
        cases found with
        | list items =>
            cases planned
            exact List.forall_mem_map.mpr fun item _ => ⟨_, item, rfl⟩
        | object members =>
            dsimp only at planned
            split at planned
            · cases planned
              exact List.forall_mem_map.mpr fun entry _ => ⟨_, entry.2, rfl⟩
            · cases planned
        | _ => cases planned

/-- What is merged into nothing is added, and the way to it opened. -/
theorem Change.plan_merge_missing {way : List Part} {edits : List Edit}
    (kind : change.kind = .merge) (located : change.locate document = .ok way)
    (looked : lookupFor document way = .ok none) (planned : change.plan document = .ok edits) :
    ∃ parents, parentEdits document way = .ok parents ∧
      edits = parents ++ [.add (tokensOf way) (mergedValue change.value)] := by
  rw [Change.plan, kind, Change.planMerge, located] at planned
  simp only [bind, Except.bind, looked] at planned
  cases opened : parentEdits document way with
  | error error =>
      rw [opened] at planned
      cases planned
  | ok parents =>
      rw [opened] at planned
      cases planned
      exact ⟨parents, rfl, rfl⟩

/-- What is merged into a list is appended, as far as it is new. -/
theorem Change.plan_merge_list {way : List Part} {present : List Node}
    (kind : change.kind = .merge) (located : change.locate document = .ok way)
    (looked : lookupFor document way = .ok (some (.list present))) :
    change.plan document =
      .ok ((newItems present (mergedItems change.value)).map (.add (tokensOf way ++ ["-"]))) := by
  rw [Change.plan, kind, Change.planMerge, located]
  simp only [bind, Except.bind, looked]

/-- A list is merged into nothing but a list. -/
theorem Change.plan_merge_refused {way : List Part} {items : List Node} {edits : List Edit}
    (kind : change.kind = .merge) (value : change.value = .list items)
    (located : change.locate document = .ok way)
    (looked : lookupFor document way = .ok (some base)) (notList : base.items? = none) :
    change.plan document ≠ .ok edits := by
  rw [Change.plan, kind, Change.planMerge, located]
  simp only [bind, Except.bind, looked, value]
  cases base with
  | list present => cases notList
  | _ => nofun

/-- A list that is merged into a place stands there, and every item of it, or one that is the
same, is in the list of the place afterwards. -/
theorem Change.merge_ok {items : List Node} (kind : change.kind = .merge)
    (value : change.value = .list items) (nonempty : names ≠ [])
    (located : change.locate document = .ok (anchor ++ names.map .name))
    (reached : document.at? anchor = some base)
    (notList : ∀ items, document.at? (anchor ++ names.dropLast.map .name) ≠ some (.list items))
    (applied : change.apply document = .ok after) :
    ∃ present,
      (document.at? (anchor ++ names.map .name) = some (.list present) ∨
        (present = [] ∧ ∃ edits, parentEdits document (anchor ++ names.map .name) = .ok edits)) ∧
      after = Node.graft (.list (items.foldl keepNew present)) (anchor ++ names.map .name)
        document ∧
      document.isOpen (anchor ++ names.map .name) = true := by
  obtain ⟨edits, planned, made⟩ := Change.apply_ok applied
  have looked := lookupFor_anchored reached names
  cases found : document.at? (anchor ++ names.map .name) with
  | none =>
      rw [found] at looked
      obtain ⟨parents, opened, rfl⟩ := Change.plan_merge_missing kind located looked planned
      obtain ⟨grafted, openWay⟩ := carryOut_parentEdits nonempty reached opened notList made
      refine ⟨[], .inr ⟨rfl, parents, opened⟩, ?_, openWay⟩
      rw [grafted, value]
      rfl
  | some place =>
      rw [found] at looked
      cases place with
      | list present =>
          rw [Change.plan_merge_list kind located looked, value, Change.mergedItems] at planned
          cases planned
          refine ⟨present, .inl rfl, ?_, Node.isOpen_of_at? found⟩
          rw [← append_newItems]
          exact applyAll_appends found made
      | _ => exact absurd planned (Change.plan_merge_refused kind value located looked rfl)

end ApiReview
