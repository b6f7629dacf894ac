import ApiReview.Proofs.Node.Json
import ApiReview.Proofs.Node.Named
import ApiReview.Proofs.Patch.Planned

/-! A change that was made is made once more without effect. What a rename, a
removal, a merge or a set leaves behind is what it finds done the second time, as
long as its address still means the same way. -/

set_option autoImplicit false

namespace ApiReview

variable {change : Change} {anchor done way : List Part} {root part : Part} {names : List String}
  {last token : String} {document node child base after value : Node} {edits : List Edit}

/-! ## Edits -/

theorem Shape.child_of_withChild {shape whole : Shape Node}
    (put : shape.withChild value token = .ok whole) :
    whole.toNode.shape = whole ∧ whole.child token = .ok value ∧
      whole.withChild value token = .ok whole := by
  cases shape with
  | object members =>
      rw [withChild] at put
      split at put
      · cases put
        have present : Members.has (Members.put (.str token) value members) token = true := by
          rw [Members.has, Members.get?_put_self]
          rfl
        refine ⟨rfl, ?_, ?_⟩
        · simp only [child, Members.get?_put_self]
        · rw [withChild, if_pos present, Members.put_put]
      · cases put
  | list items =>
      obtain ⟨position, read, put⟩ := bind_ok put
      split at put
      · rename_i within
        cases put
        refine ⟨rfl, ?_, ?_⟩
        · simp only [child, read, bind, Except.bind, List.getElem?_set_self within]
        · simp only [withChild, read, bind, Except.bind, List.length_set, within, if_true,
            List.set_set]
      · cases put
  | scalar value => cases put

/-- An edit below some tokens edits the part there. What was edited is found there again, and an
edit that does nothing to it does nothing to the whole. -/
theorem Node.editAt_spec {edit : String → Shape Node → Except EditError (Shape Node)}
    {front : List String} (edited : document.editAt edit (front ++ [last]) = .ok after) :
    ∃ parent shape, document.partAt front = .ok parent ∧ edit last parent.shape = .ok shape ∧
      after.partAt front = .ok shape.toNode ∧
      (edit last shape.toNode.shape = .ok shape →
        after.editAt edit (front ++ [last]) = .ok after) := by
  induction front generalizing document after with
  | nil =>
      obtain ⟨shape, changed, result⟩ := bind_ok edited
      cases result
      refine ⟨document, shape, rfl, changed, rfl, fun kept => ?_⟩
      rw [List.nil_append, editAt, kept]
      rfl
  | cons token front ih =>
      obtain ⟨next, more, split⟩ : ∃ next more, front ++ [last] = next :: more :=
        List.exists_cons_of_ne_nil (by simp)
      rw [List.cons_append, split, editAt] at edited
      obtain ⟨child, walked, edited⟩ := bind_ok edited
      obtain ⟨changed, inside, edited⟩ := bind_ok edited
      obtain ⟨whole, put, result⟩ := bind_ok edited
      cases result
      obtain ⟨shaped, found, kept⟩ := Shape.child_of_withChild put
      rw [← split] at inside
      obtain ⟨parent, shape, reached, applied, again, idle⟩ := ih inside
      refine ⟨parent, shape, ?_, applied, ?_, fun same => ?_⟩
      · rw [partAt, walked]
        exact reached
      · rw [partAt, shaped, found]
        exact again
      · have idle := idle same
        rw [split] at idle
        rw [List.cons_append, split, editAt, shaped, found]
        simp only [bind, Except.bind, idle, kept]

/-- A member that was added can be added again where it stands. -/
theorem Edit.add_again {front : List Part} {members : Members}
    (reached : after.at? front = some (.object members))
    (edited : (Edit.add (tokensOf front ++ [last]) value).apply document = .ok after) :
    (Edit.add (tokensOf front ++ [last]) value).apply after = .ok after := by
  obtain ⟨first, more, split⟩ : ∃ first more, tokensOf front ++ [last] = first :: more :=
    List.exists_cons_of_ne_nil (by simp)
  have whole : ∀ node : Node, (Edit.add (tokensOf front ++ [last]) value).apply node =
      node.editAt (Shape.add value) (tokensOf front ++ [last]) := by
    intro node
    rw [split]
    rfl
  rw [whole] at edited ⊢
  obtain ⟨parent, shape, _, added, again, idle⟩ := Node.editAt_spec edited
  have object := Node.partAt_of_at? reached again
  refine idle ?_
  cases parent with
  | object held =>
      cases added
      exact congrArg (fun members => Except.ok (Shape.object members)) Members.put_put
  | list items =>
      -- A list takes another item each time, but the part there is an object.
      rw [Node.shape, Shape.add] at added
      split at added
      · cases added
        cases object
      · obtain ⟨position, _, added⟩ := bind_ok added
        split at added
        · cases added
          cases object
        · cases added
  | _ => cases added

/-! ## The way to a place -/

theorem ensureParents_empty (root : Part) (done parts : List Part) :
    ensureParents root (.object []) done parts = createParents root done parts := by
  cases parts with
  | nil => rfl
  | cons part rest =>
      cases rest with
      | nil => rfl
      | cons next rest =>
          have bare : hasMember (.object []) part = false := by cases part <;> rfl
          have missing : (Node.object []).child? part = .ok none := by cases part <;> rfl
          rw [ensureParents, bare, missing]
          · rfl
          · exact List.cons_ne_nil next rest

def Node.hasParts : Node → Bool
  | .object _ | .list _ => true
  | _ => false

theorem Node.hasParts_of_takes (taken : node.takes part = true) : node.hasParts = true := by
  rcases takes_cases taken with ⟨_, members, _, rfl⟩ | ⟨_, items, _, rfl, _⟩ <;> rfl

theorem ensureParents_step {next : Part} {rest : List Part}
    (stepped : node.child? part = .ok (some child)) (further : child.hasParts = true)
    (allowed : (!hasMember node part && isProtected root done.length) = false) :
    ensureParents root node done (part :: next :: rest) =
      ensureParents root child (done ++ [part]) (next :: rest) := by
  rw [ensureParents, allowed, stepped]
  · cases child with
    | object members => rfl
    | list items => rfl
    | _ => cases further
  · exact List.cons_ne_nil next rest

theorem takes_graft {rest : List Part} (taken : node.takes part = true) :
    (Node.graft value (part :: rest) node).takes part = true :=
  Node.takes_of_part? (Node.part?_withPart_self taken)

theorem ensureParents_allowed {next : Part} {rest : List Part}
    (planned : ensureParents root node done (part :: next :: rest) = .ok edits) :
    (!hasMember node part && isProtected root done.length) = false := by
  rw [ensureParents] at planned
  · split at planned
    · cases planned
    · rename_i allowed
      exact Bool.eq_false_iff.mpr allowed
  · exact List.cons_ne_nil next rest

theorem part?_of_child? (taken : node.takes part = true) {found? : Option Node}
    (looked : node.child? part = .ok found?) : node.part? part = found? := by
  cases stepped : node.part? part with
  | some child =>
      rw [Node.child?_of_part? stepped] at looked
      exact Except.ok.inj looked
  | none =>
      rcases Node.takes_cases taken with ⟨name, members, rfl, rfl⟩ | ⟨index, items, rfl, rfl, within⟩
      · rw [Node.child?_name, stepped] at looked
        exact Except.ok.inj looked
      · have beyond : items.length ≤ index := List.getElem?_eq_none_iff.mp stepped
        omega

theorem hasMember_withPart (value : Node) (taken : node.takes part = true) :
    hasMember (node.withPart part value) part = true ∨
      hasMember (node.withPart part value) part = hasMember node part := by
  rcases Node.takes_cases taken with ⟨name, members, rfl, rfl⟩ | ⟨index, items, rfl, rfl, within⟩
  · refine .inl ?_
    simp only [Node.withPart, hasMember, Members.has, Members.get?_put_self, Option.isSome_some]
  · exact .inr rfl

/-- Once a value stands at the end of a way, nothing is created on the way to it any more. -/
theorem ensureParents_again (planned : ensureParents root node done way = .ok edits)
    (opened : node.isOpen way = true) :
    ensureParents root (Node.graft value way node) done way = .ok [] := by
  induction way generalizing node done edits with
  | nil => rfl
  | cons part rest ih =>
      cases rest with
      | nil => rfl
      | cons next rest =>
          have allowed := ensureParents_allowed planned
          rw [Node.isOpen, Bool.and_eq_true] at opened
          obtain ⟨taken, opened⟩ := opened
          have stepped : (node.withPart part (Node.graft value (next :: rest)
              ((node.part? part).getD (.object [])))).child? part = .ok (some _) :=
            Node.child?_of_part? (Node.part?_withPart_self taken)
          have holds : (Node.graft value (next :: rest)
              ((node.part? part).getD (.object []))).takes next = true := by
            rw [Node.isOpen, Bool.and_eq_true] at opened
            exact takes_graft opened.1
          rw [Node.graft_cons, ensureParents_step stepped (Node.hasParts_of_takes holds)]
          · rcases ensureParents_cons_ok planned with ⟨child, looked, further⟩ |
              ⟨missing, object, created⟩
            · have read := part?_of_child? taken looked
              rw [read, Option.getD_some] at opened ⊢
              exact ih further opened
            · have read := part?_of_child? taken missing
              obtain ⟨_, later, created, _⟩ := createParents_cons_ok created
              rw [← ensureParents_empty] at created
              rw [read, Option.getD_none] at opened ⊢
              exact ih created opened
          · rcases hasMember_withPart (Node.graft value (next :: rest)
                ((node.part? part).getD (.object []))) taken with present | same
            · rw [present]
              rfl
            · rw [same]
              exact allowed

theorem parentEdits_again (planned : parentEdits document way = .ok edits)
    (opened : document.isOpen way = true) :
    parentEdits (Node.graft value way document) way = .ok [] := by
  cases way with
  | nil => rfl
  | cons root rest => exact ensureParents_again planned opened

/-! ## Kinds of change -/

theorem Change.set_again (kind : change.kind = .set) (nonempty : names ≠ [])
    (located : change.locate document = .ok (anchor ++ names.map .name))
    (reached : document.at? anchor = some base) (applied : change.apply document = .ok after)
    (stays : change.locate after = .ok (anchor ++ names.map .name)) :
    change.apply after = .ok after := by
  obtain ⟨grafted, opened, parents, planned⟩ := set_ok kind nonempty located reached applied
  obtain ⟨front, last, rfl⟩ : ∃ front last, names = front ++ [last] :=
    ⟨_, _, (List.dropLast_append_getLast nonempty).symm⟩
  have whole : anchor ++ (front ++ [last]).map Part.name =
      (anchor ++ front.map .name) ++ [.name last] := by simp
  have stands : after.at? (anchor ++ (front ++ [last]).map .name) = some change.value := by
    rw [grafted]
    exact Node.at?_graft_self opened
  rw [whole] at stands
  obtain ⟨members, above, _⟩ := Node.exists_object_of_member stands
  obtain ⟨between, anchored, _⟩ := Node.at?_of_append above
  have added : (Edit.add (tokensOf (anchor ++ (front ++ [last]).map .name)) change.value).apply
      after = .ok after := by
    obtain ⟨edits, planned, made⟩ := apply_ok applied
    obtain ⟨_, parents, _, rfl⟩ := (plan_set_iff kind nonempty located reached).mp planned
    rw [Edit.applyAll, List.foldlM_append] at made
    obtain ⟨working, _, made⟩ := bind_ok made
    obtain ⟨result, made, same⟩ := Edit.applyAll_cons_ok made
    cases same
    have path : tokensOf (anchor ++ (front ++ [last]).map .name) =
        tokensOf (anchor ++ front.map .name) ++ [last] := by
      simp [tokensOf, Part.token]
    rw [path] at made ⊢
    exact Edit.add_again above made
  -- the way to the place exists by now, so that the second plan is the last edit of the first
  have again : change.plan after = .ok ([] ++ [.add (tokensOf (anchor ++
      (front ++ [last]).map .name)) change.value]) := by
    refine (plan_set_iff kind nonempty stays anchored).mpr ⟨fun items isList => ?_, [], ?_, rfl⟩
    · rw [List.dropLast_concat, above] at isList
      cases isList
    · rw [grafted]
      exact parentEdits_again planned opened
  refine apply_of_plan again ?_
  rw [List.nil_append, Edit.applyAll, List.foldlM_cons, added]
  rfl

section Rename

variable {old new : String} (kind : change.kind = .renameKey) (source : change.from? = some old)
  (target : change.to? = some new)

include kind source target

theorem Change.rename_done {members : Members}
    (located : change.locate document = .ok (names.map .name))
    (found : document.at? (names.map .name) = some (.object members))
    (gone : Members.has members old = false) (there : Members.has members new = true) :
    change.apply document = .ok document := by
  have planned : change.plan document = .ok [] :=
    (plan_rename_iff kind source target located Node.at?_nil).mpr
      ⟨members, found, .inl ⟨gone, there, rfl⟩⟩
  exact apply_of_plan planned rfl

theorem Change.rename_takes (named : document.isNamed = true)
    (located : change.locate document = .ok (names.map .name))
    (applied : change.apply document = .ok after) :
    after.isNamed = true ∧ ∃ members, after.at? (names.map .name) = some (.object members) ∧
      Members.has members old = false ∧ Members.has members new = true := by
  obtain ⟨edits, planned, made⟩ := apply_ok applied
  obtain ⟨members, found, ⟨gone, there, rfl⟩ | ⟨there, free, rfl⟩⟩ :=
    (plan_rename_iff kind source target located Node.at?_nil).mp planned
  · cases made
    exact ⟨named, members, found, gone, there⟩
  · obtain ⟨result, renamed, rest⟩ := Edit.applyAll_cons_ok made
    cases rest
    have shape := Edit.renameKey_ok found renamed
    subst shape
    have owner := Node.isNamed_of_at? named found
    have different : Key.str old ≠ .str new := by
      rintro same
      rw [Key.str.inj same, free] at there
      cases there
    refine ⟨Node.isNamed_graft named (Node.isNamed_renameKey owner free), _,
      Node.at?_graft_self (Node.isOpen_of_at? found), ?_, ?_⟩
    · rw [Members.has_eq_false_iff]
      exact Members.old_not_mem_keys_renameKey different
    · rw [Members.has, Members.get?,
        Members.lookup_renameKey_new (Members.has_eq_false_iff.mp free)]
      exact there

end Rename

theorem Change.remove_again (kind : change.kind = .remove) (named : document.isNamed = true)
    (located : ∀ document, change.locate document = .ok ((names ++ [last]).map .name))
    (applied : change.apply document = .ok after) : change.apply after = .ok after := by
  obtain ⟨result, removed, gone⟩ := remove_names kind (located document)
  cases applied.symm.trans removed
  have missing : after.at? ((names ++ [last]).map .name) = none := by
    rcases gone with ⟨missing, rfl⟩ | ⟨members, found, rfl⟩
    · exact missing
    · have distinct := Node.distinct_of_isNamed (Node.isNamed_of_at? named found)
      rw [List.map_append, Node.at?_append_of_some (Node.at?_graft_self (Node.isOpen_of_at? found))]
      exact Node.at?_singleton.trans (Members.lookup_erase_self distinct)
  have planned : change.plan after = .ok [] := by
    rw [plan_remove_names kind (located after), missing]
  exact apply_of_plan planned rfl

/-! ## Merging -/

theorem sameItem_self (json : value.isJson = true) : sameItem value value = true := by
  have equal := Node.same_self json
  cases value with
  | object members =>
      rw [sameItem]
      split
      · rename_i name location named located
        have inside : ∀ part, (∃ key, Members.get? members key = some part) →
            part.same part = true := by
          rintro part ⟨key, read⟩
          rw [Node.isJson, Bool.and_eq_true] at json
          exact Node.same_self (Node.isJson_of_haveJson json.2 (Members.mem_of_lookup read))
        simp only [named, located, Option.getD_some, inside location ⟨"in", located⟩,
          inside name ⟨"name", named⟩, beq_self_eq_true, Bool.not_true, Bool.false_eq_true, if_false,
          ite_self]
      · exact equal
  | _ => exact equal

theorem foldl_keepNew_of_covered {kept items : List Node}
    (covered : ∀ item ∈ items, kept.any (sameItem item) = true) :
    items.foldl keepNew kept = kept := by
  induction items with
  | nil => rfl
  | cons item items ih =>
      rw [List.foldl_cons, keepNew, if_pos (covered item List.mem_cons_self)]
      exact ih fun other among => covered other (List.mem_cons_of_mem _ among)

/-- Every JSON value that was merged into a list has the same one in it. -/
theorem any_sameItem_merged {items : List Node} {item : Node} (json : Node.areJson items = true)
    (present : List Node) (among : item ∈ items) :
    (items.foldl keepNew present).any (sameItem item) = true := by
  obtain ⟨found, inside, same⟩ := covered_by_foldl_keepNew present among
  refine List.any_eq_true.mpr ⟨found, inside, ?_⟩
  rcases same with rfl | same
  · exact sameItem_self (Node.isJson_of_areJson json among)
  · exact same

theorem newItems_merged {items : List Node} (json : Node.areJson items = true)
    (present : List Node) : newItems (items.foldl keepNew present) items = [] := by
  have whole := append_newItems (items.foldl keepNew present) items
  rw [foldl_keepNew_of_covered fun item => any_sameItem_merged json present] at whole
  exact List.append_right_eq_self.mp whole

/-- A list takes no part under a word. -/
theorem notList_of_added {front : List String} (word : listPosition last = .error .conflict)
    (inside : last ≠ "-") (planned : parentEdits document ((front ++ [last]).map .name) = .ok edits)
    (made : Edit.applyAll (edits ++ [.add (tokensOf ((front ++ [last]).map .name)) value])
      document = .ok after) (items : List Node) :
    document.at? (front.map .name) ≠ some (.list items) := by
  intro isList
  obtain ⟨root, more, split⟩ : ∃ root more, (front ++ [last]).map Part.name = root :: more :=
    List.exists_cons_of_ne_nil (by simp)
  have ensured : ensureParents root document [] ((front ++ [last]).map .name) = .ok edits := by
    rw [split] at planned ⊢
    exact planned
  obtain ⟨above, name, rest, parent, whole, reached, created, stops⟩ :=
    ensureParents_names_ok (by simp) ensured
  rcases List.eq_nil_or_concat' rest with rfl | ⟨rest, final, rfl⟩
  · obtain ⟨rfl, same⟩ := List.append_inj' whole rfl
    cases same
    cases created
    obtain ⟨result, added, _⟩ := Edit.applyAll_cons_ok made
    have path : tokensOf ((front ++ [last]).map .name) = tokensOf (front.map .name) ++ [last] := by
      simp [tokensOf, Part.token]
    obtain ⟨first, tokens, some_token⟩ : ∃ first tokens,
        tokensOf (front.map .name) ++ [last] = first :: tokens :=
      List.exists_cons_of_ne_nil (by simp)
    have added : document.editAt (Shape.add value) (tokensOf (front.map .name) ++ [last]) =
        .ok result := by
      rw [path, some_token] at added
      rw [some_token]
      exact added
    obtain ⟨shape, taken, _⟩ := Node.editAt_ok isList added
    rw [Node.shape, Shape.add, if_neg inside, word] at taken
    cases taken
  · -- What lies above the place exists, so that the walk does not stop there.
    have cut : front ++ [last] = (above ++ name :: rest) ++ [final] := by simp [whole]
    obtain ⟨rfl, _⟩ := List.append_inj' cut rfl
    have missing := (stops (by simp)).2
    rw [List.map_append, Node.at?_append_of_some reached, List.map_cons, Node.at?_cons,
      missing] at isList
    cases isList

/-- Nothing is merged under a word of a list. -/
theorem Change.notList_of_merge {front : List String} (kind : change.kind = .merge)
    (word : listPosition last = .error .conflict) (inside : last ≠ "-")
    (located : change.locate document = .ok ((front ++ [last]).map .name))
    (applied : change.apply document = .ok after) (held : List Node) :
    document.at? (front.map .name) ≠ some (.list held) := by
  intro isList
  obtain ⟨edits, planned, made⟩ := apply_ok applied
  have missing : document.at? ((front ++ [last]).map .name) = none := by
    rw [List.map_append, Node.at?_append_of_some isList]
    rfl
  have looked : lookupFor document ((front ++ [last]).map .name) = .ok none :=
    (lookupFor_anchored Node.at?_nil (front ++ [last])).trans (congrArg Except.ok missing)
  obtain ⟨parents, opened, rfl⟩ := plan_merge_missing kind located looked planned
  exact notList_of_added word inside opened made held isList

/-- A list of JSON values that was merged is merged again without effect. -/
theorem Change.merge_again {front : List String} {items : List Node} (kind : change.kind = .merge)
    (listed : change.value = .list items) (json : Node.areJson items = true)
    (word : listPosition last = .error .conflict) (inside : last ≠ "-")
    (located : ∀ document, change.locate document = .ok ((front ++ [last]).map .name))
    (applied : change.apply document = .ok after) : change.apply after = .ok after := by
  have parentNotList := notList_of_merge kind word inside (located document) applied
  obtain ⟨present, _, grafted, opened⟩ := merge_ok kind listed (by simp) (located document)
    Node.at?_nil (by rwa [List.dropLast_concat]) applied
  have stands : after.at? ((front ++ [last]).map .name) =
      some (.list (items.foldl keepNew present)) := by
    rw [grafted]
    exact Node.at?_graft_self opened
  have looked : lookupFor after ((front ++ [last]).map .name) =
      .ok (some (.list (items.foldl keepNew present))) :=
    (lookupFor_anchored Node.at?_nil (front ++ [last])).trans (congrArg Except.ok stands)
  have planned : change.plan after = .ok [] := by
    rw [plan_merge_list kind (located after) looked, listed, mergedItems, newItems_merged json]
    rfl
  exact apply_of_plan planned rfl

end ApiReview
