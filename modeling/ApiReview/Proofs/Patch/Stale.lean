import ApiReview.Proofs.Patch.Faults
import ApiReview.Proofs.Patch.Placement

/-! Changes below an operation. They are made within what is there already: no path
and no member of a path item comes or goes, whatever the change creates further
down. A change whose path item is gone, or has no such member, is refused, so that
what another change has renamed is never made anew under its old name. -/

set_option autoImplicit false

namespace ApiReview

open ApiReview.Address (isForward partSelector)

variable {change : Change} {document after node base part value : Node} {edits : List Edit}
  {edit : Edit} {place way rest done : List Part} {root step item member : Part}

/-! ## Edits below a place -/

/-- An edit adds or replaces a part below a place. -/
inductive Edit.IsBelow (place : List Part) : Edit → Prop
  | add (between : List String) (last : String) (value : Node) :
      IsBelow place (.add (tokensOf place ++ between ++ [last]) value)
  | replace (between : List String) (last : String) (value : Node) :
      IsBelow place (.replace (tokensOf place ++ between ++ [last]) value)

namespace Edit

theorem tokensOf_below (place : List Part) (some_left : rest ≠ []) :
    ∃ between last, tokensOf (place ++ rest) = tokensOf place ++ between ++ [last] := by
  rcases List.eq_nil_or_concat' rest with rfl | ⟨front, last, rfl⟩
  · exact absurd rfl some_left
  · refine ⟨tokensOf front, last.token, ?_⟩
    rw [tokensOf_append, tokensOf_append, List.append_assoc]
    rfl

theorem isBelow_add (value : Node) (some_left : rest ≠ []) :
    (Edit.add (tokensOf (place ++ rest)) value).IsBelow place := by
  obtain ⟨between, last, tokens⟩ := tokensOf_below place some_left
  rw [tokens]
  exact .add between last value

theorem isBelow_replace (value : Node) (some_left : rest ≠ []) :
    (Edit.replace (tokensOf (place ++ rest)) value).IsBelow place := by
  obtain ⟨between, last, tokens⟩ := tokensOf_below place some_left
  rw [tokens]
  exact .replace between last value

theorem IsBelow.of_append (below : edit.IsBelow (place ++ rest)) : edit.IsBelow place := by
  cases below with
  | add between last value =>
      rw [tokensOf_append, List.append_assoc (tokensOf place)]
      exact .add _ last value
  | replace between last value =>
      rw [tokensOf_append, List.append_assoc (tokensOf place)]
      exact .replace _ last value

/-- One edit below a part that is there changes nothing but this part. -/
theorem IsBelow.apply_ok (below : edit.IsBelow place) (reached : document.at? place = some part)
    (made : edit.apply document = .ok after) :
    ∃ changed, after = Node.graft changed place document := by
  cases below with
  | add between last value =>
      rw [add_eq_editAt, List.append_assoc] at made
      obtain ⟨changed, _, grafted⟩ := Node.editAt_below reached (by simp) made
      exact ⟨changed, grafted⟩
  | replace between last value =>
      rw [replace_eq_editAt, List.append_assoc] at made
      obtain ⟨changed, _, grafted⟩ := Node.editAt_below reached (by simp) made
      exact ⟨changed, grafted⟩

theorem applyAll_below (below : ∀ edit ∈ edits, edit.IsBelow place)
    (reached : document.at? place = some part) (made : applyAll edits document = .ok after) :
    ∃ changed, after = Node.graft changed place document := by
  induction edits generalizing document part with
  | nil =>
      cases made
      exact ⟨part, (Node.graft_of_at? reached).symm⟩
  | cons edit edits ih =>
      obtain ⟨next, applied, made⟩ := applyAll_cons_ok made
      obtain ⟨changed, rfl⟩ := (below edit List.mem_cons_self).apply_ok reached applied
      have stands : (Node.graft changed place document).at? place = some changed :=
        Node.at?_graft_self (Node.isOpen_of_at? reached)
      obtain ⟨last, rfl⟩ := ih (fun other among => below other (List.mem_cons_of_mem _ among)) stands
        made
      exact ⟨last, Node.graft_graft⟩

end Edit

/-! ## Plans below a place -/

theorem createParents_below (created : createParents root done way = .ok edits) :
    ∀ edit ∈ edits, edit.IsBelow done := by
  induction way generalizing done edits with
  | nil =>
      cases created
      nofun
  | cons part way ih =>
      cases way with
      | nil =>
          cases created
          nofun
      | cons next way =>
          obtain ⟨_, later, continued, rfl⟩ := createParents_cons_ok created
          intro edit among
          rcases List.mem_cons.mp among with rfl | among
          · exact Edit.isBelow_add _ (List.cons_ne_nil part [])
          · exact (ih continued edit among).of_append

theorem ensureParents_below (planned : ensureParents root node done way = .ok edits) :
    ∀ edit ∈ edits, edit.IsBelow done := by
  induction way generalizing node done edits with
  | nil =>
      cases planned
      nofun
  | cons part way ih =>
      cases way with
      | nil =>
          cases planned
          nofun
      | cons next way =>
          rcases ensureParents_cons_ok planned with ⟨child, _, continued⟩ | ⟨_, _, created⟩
          · intro edit among
            exact (ih continued edit among).of_append
          · exact createParents_below created

/-- The way to a place below a part that is there is opened below that part. -/
theorem parentEdits_below (reached : document.at? place = some part) (some_left : rest ≠ [])
    (planned : parentEdits document (place ++ rest) = .ok edits) :
    ∀ edit ∈ edits, edit.IsBelow place := by
  obtain ⟨first, more, split⟩ : ∃ first more, place ++ rest = first :: more :=
    List.exists_cons_of_ne_nil (by simp [some_left])
  have walked : ensureParents first document [] (place ++ rest) = .ok edits := by
    rw [split] at planned ⊢
    exact planned
  exact ensureParents_below (ensureParents_anchored reached some_left walked)

namespace Change

/-- A change that sets, adds or merges a value. -/
def Puts (change : Change) : Prop := change.kind = .set ∨ change.Grows

/-- What a change adds, replaces or creates lies below every part on its way. -/
theorem plan_below (puts : change.Puts) (located : change.locate document = .ok (place ++ rest))
    (reached : document.at? place = some part) (some_left : rest ≠ [])
    (planned : change.plan document = .ok edits) : ∀ edit ∈ edits, edit.IsBelow place := by
  have added : ∀ parents value, parentEdits document (place ++ rest) = .ok parents →
      ∀ edit ∈ parents ++ [.add (tokensOf (place ++ rest)) value], edit.IsBelow place := by
    intro parents value opened
    exact List.forall_mem_append.mpr ⟨parentEdits_below reached some_left opened,
      List.forall_mem_singleton.mpr (Edit.isBelow_add value some_left)⟩
  rcases puts with kind | grows
  · have some_step : place ++ rest ≠ [] := by simp [some_left]
    obtain ⟨parents, _, _, opened, _, _, ⟨_, _, _, _, rfl⟩ | ⟨_, rfl⟩⟩ :=
      plan_set_ok kind some_step located planned
    · exact List.forall_mem_append.mpr ⟨parentEdits_below reached some_left opened,
        List.forall_mem_singleton.mpr (Edit.isBelow_replace _ some_left)⟩
    · exact added parents _ opened
  · rcases plan_grows_ok grows located planned with ⟨parents, value, _, opened, rfl⟩ | ⟨_, _, parts⟩
    · exact added parents value opened
    · intro edit among
      obtain ⟨token, value, rfl⟩ := parts edit among
      rw [tokensOf_append]
      exact .add _ token value

/-- A change is planned for a place that is there, or along a way that can be opened. -/
theorem opened_of_plan (puts : change.Puts) (some_step : way ≠ [])
    (located : change.locate document = .ok way) (planned : change.plan document = .ok edits) :
    (∃ found, document.lookup? way = .ok (some found)) ∨
      ∃ parents, parentEdits document way = .ok parents := by
  rcases puts with kind | grows
  · obtain ⟨parents, _, _, opened, _⟩ := plan_set_ok kind some_step located planned
    exact .inr ⟨parents, opened⟩
  · rcases plan_grows_ok grows located planned with ⟨parents, _, _, opened, _⟩ | ⟨found, looked, _⟩
    · exact .inr ⟨parents, opened⟩
    · exact .inl ⟨found, mapError_ok looked⟩

end Change

/-! ## What stands -/

/-- The keys of the paths, each with the keys of its path item. -/
def pathOutline (document : Node) : Option (List (Key × Option (List Key))) :=
  (document.at? [.name "paths"]).bind fun paths =>
    paths.members?.map fun items =>
      items.map fun entry => (entry.1, entry.2.members?.map Members.keys)

theorem Members.map_put_of_lookup {Image : Type} {key : Key} {held : Node} {members : Members}
    (image : Node → Image) (found : members.lookup key = some held) (same : image value = image held) :
    (put key value members).map (fun member => (member.1, image member.2)) =
      members.map fun member => (member.1, image member.2) := by
  induction members with
  | nil => cases found
  | cons first members ih =>
      obtain ⟨name, old⟩ := first
      by_cases here : name = key
      · rw [lookup_cons_of_eq here, Option.some.injEq] at found
        rw [put_cons_of_eq here, List.map_cons, List.map_cons, here, same, found]
      · rw [lookup_cons_of_ne here] at found
        rw [put_cons_of_ne here, List.map_cons, List.map_cons, ih found]

theorem Node.keys_withPart (stepped : node.part? step = some part) :
    (node.withPart step value).members?.map Members.keys = node.members?.map Members.keys := by
  rcases Node.takes_cases (Node.takes_of_part? stepped) with
    ⟨name, members, rfl, rfl⟩ | ⟨index, items, rfl, rfl, _⟩
  · exact congrArg some (Members.keys_put_of_mem (Members.mem_keys_of_mem (Members.mem_of_lookup stepped)))
  · rfl

/-- Neither a path nor a member of a path item comes or goes below such a member. -/
theorem pathOutline_graft (found : document.at? [.name "paths", item, member] = some part) :
    pathOutline (Node.graft value [.name "paths", item, member] document) = pathOutline document := by
  have steps : document.at? ([.name "paths"] ++ ([item] ++ [member])) = some part := found
  obtain ⟨paths, pathsFound, within⟩ := Node.at?_of_append steps
  obtain ⟨pathItem, itemFound, memberFound⟩ := Node.at?_of_append within
  rw [Node.at?_singleton] at itemFound memberFound
  have changed : (Node.graft value [.name "paths", item, member] document).at? [.name "paths"] =
      some (paths.withPart item (pathItem.withPart member value)) := by
    have below : (Node.graft value ([.name "paths"] ++ [item, member]) document).at?
        [.name "paths"] = some (Node.graft value [item, member] paths) :=
      Node.at?_graft_append pathsFound
    rw [Node.graft_cons, itemFound] at below
    exact below
  have sameKeys : (pathItem.withPart member value).members?.map Members.keys =
      pathItem.members?.map Members.keys := Node.keys_withPart memberFound
  rw [pathOutline, pathOutline, changed, pathsFound, Option.bind_some, Option.bind_some]
  rcases Node.takes_cases (Node.takes_of_part? itemFound) with
    ⟨name, members, rfl, rfl⟩ | ⟨index, items, rfl, rfl, _⟩
  · exact congrArg some <|
      Members.map_put_of_lookup (fun entry => entry.members?.map Members.keys) itemFound sameKeys
  · rfl

/-- A way down to a part of an operation is opened when the operation exists, and else not. -/
theorem parentEdits_reached (named : document.isNamed = true)
    (forward : ∀ part ∈ way, isForward part = true) (below : way.head? = some (.name "paths"))
    (deep : 4 ≤ way.length) (planned : parentEdits document way = .ok edits) :
    ∃ found, document.at? (way.take 3) = some found := by
  obtain ⟨root, more, rfl⟩ : ∃ root more, way = root :: more :=
    List.exists_cons_of_length_pos (by omega)
  cases below
  obtain ⟨front, step, rest, parent, split, reached, created, _⟩ :=
    ensureParents_stops named forward (List.cons_ne_nil _ _) planned
  have count : (Part.name "paths" :: more).length = front.length + rest.length + 1 := by
    rw [split, List.length_append, List.length_cons, Nat.add_assoc]
  rw [List.nil_append] at created
  have inside : 3 ≤ front.length :=
    depth_of_createParents created (by omega) (by omega) (by omega)
  rw [split, List.take_append_of_le_length inside]
  exact Node.at?_take reached 3

/-- A document with one operation, whose path had another name before. -/
def renamedPath : Node :=
  .object [(.str "paths", .object [(.str "/users", .object [(.str "get", .object [])])])]

end ApiReview
