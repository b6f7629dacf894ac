import ApiReview.Proofs.Address.Readable
import ApiReview.Proofs.Node.Symmetry
import ApiReview.Proofs.Patch.Again
import ApiReview.Proofs.Patch.Placement

/-! Adding to a list and merging. A list takes the items that it does not have, in their
order, each compared with what was there and with what came before it; an object takes
all members, of which the known ones keep their places. Nothing else changes, and no
list of distinct parameters gets two that are one. -/

set_option autoImplicit false

namespace ApiReview

open ApiReview.Address (isForward partSelector)
open ApiReview.Text

variable {change : Change} {document after left right item : Node} {way : List Part}
  {present items : List Node} {held given : Members}

/-! ## Edits at one place -/

theorem lookupFor_of_at? (reached : document.at? way = some item) :
    lookupFor document way = .ok (some item) := by
  have looked := lookupFor_anchored reached []
  rwa [List.map_nil, List.append_nil, reached] at looked

/-- Parts that are added at one place, one after the other, make of it what each of them makes. -/
theorem Edit.applyAll_adds {State Entry : Type} (embed : State → Node)
    (grow : State → Entry → State) (token : Entry → String) (value : Entry → Node)
    {entries : List Entry} {state : State} (readable : ∀ part ∈ way, part.isReadable = true)
    (possible : ∀ entry ∈ entries, ∀ state, Shape.add (value entry) (token entry) (embed state).shape =
      .ok (embed (grow state entry)).shape)
    (reached : document.at? way = some (embed state)) :
    applyAll (entries.map fun entry => .add (tokensOf way ++ [token entry]) (value entry)) document =
      .ok (Node.graft (embed (entries.foldl grow state)) way document) := by
  induction entries generalizing document state with
  | nil => exact congrArg Except.ok (Node.graft_of_at? reached).symm
  | cons entry entries ih =>
      have added := Node.editAt_of_at? readable reached (possible entry List.mem_cons_self state)
      rw [Shape.toNode_shape] at added
      rw [List.map_cons, applyAll, List.foldlM_cons, add_eq_editAt, added]
      have stands : (Node.graft (embed (grow state entry)) way document).at? way =
          some (embed (grow state entry)) := Node.at?_graft_self (Node.isOpen_of_at? reached)
      have later := ih (fun other among => possible other (List.mem_cons_of_mem _ among)) stands
      rw [Node.graft_graft] at later
      exact later

/-! ## Lists -/

/-- The items that a change adds to a list or merges into it. -/
def Change.givenItems (change : Change) : List Node :=
  if change.kind = .add then [change.value] else mergedItems change.value

theorem Change.plan_list (grows : change.Grows) (located : change.locate document = .ok way)
    (looked : lookupFor document way = .ok (some (.list present))) :
    change.plan document =
      .ok ((newItems present change.givenItems).map (.add (tokensOf way ++ ["-"]))) := by
  rcases grows with kind | kind
  · have given : newItems present [change.value] =
        if present.any (sameItem change.value) then [] else [change.value] := by
      simp only [newItems, List.foldl_cons, List.foldl_nil]
      split <;> rfl
    rw [givenItems, if_pos kind, given, plan, kind, planAdd, located]
    simp only [bind, Except.bind, looked]
    split <;> rfl
  · rw [givenItems, if_neg (by simp [kind])]
    exact plan_merge_list kind located looked

theorem Change.apply_list (grows : change.Grows) (located : change.locate document = .ok way)
    (readable : ∀ part ∈ way, part.isReadable = true)
    (reached : document.at? way = some (.list present)) :
    change.apply document =
      .ok (Node.graft (.list (change.givenItems.foldl keepNew present)) way document) := by
  have looked := lookupFor_of_at? reached
  have appended := Edit.applyAll_adds Node.list (fun items item => items ++ [item]) (fun _ => "-") id
    readable (fun item (_ : item ∈ newItems present change.givenItems) items => rfl) reached
  rw [List.foldl_append_eq_append, ← List.flatMap_def, List.flatMap_singleton',
    append_newItems] at appended
  exact apply_of_plan (plan_list grows located looked) appended

theorem Change.areJson_givenItems (json : change.value.isJson = true) :
    Node.areJson change.givenItems = true := by
  have single : Node.areJson [change.value] = true := by
    rw [Node.areJson, json]
    rfl
  rw [givenItems]
  split
  · exact single
  · cases value : change.value with
    | list items =>
        rw [value] at json
        exact json
    | _ =>
        rw [value] at single
        exact single

theorem Change.isNamed_givenItems (named : change.value.isNamed = true)
    (among : item ∈ change.givenItems) : item.isNamed = true := by
  rw [givenItems] at among
  split at among
  · cases List.mem_singleton.mp among
    exact named
  · cases value : change.value with
    | list items =>
        rw [value] at named among
        exact Node.isNamed_of_item named among
    | _ =>
        rw [value] at among
        cases List.mem_singleton.mp among
        rwa [value] at named

/-! ## Parameters -/

/-- Two parameters are one when they have the same location and the same name, for headers without
regard to case. -/
inductive SameParameter : Node → Node → Prop
  | header {lefts rights : Members} {name other : Node} :
      Members.get? lefts "in" = some (.str "header") →
      Members.get? rights "in" = some (.str "header") →
      Members.get? lefts "name" = some name → Members.get? rights "name" = some other →
      lower name.display = lower other.display → SameParameter (.object lefts) (.object rights)
  | elsewhere {lefts rights : Members} {name other location otherLocation : Node} :
      Members.get? lefts "in" = some location → Members.get? rights "in" = some otherLocation →
      location ≠ .str "header" → location.same otherLocation = true →
      Members.get? lefts "name" = some name → Members.get? rights "name" = some other →
      name.same other = true → SameParameter (.object lefts) (.object rights)

theorem Node.same_str_iff {node : Node} {text : String} :
    node.same (.str text) = true ↔ node = .str text := by
  cases node with
  | str other =>
      rw [Node.str.injEq]
      exact beq_iff_eq
  | _ => exact iff_of_false nofun nofun

theorem sameItem_of_sameParameter (same : SameParameter left right) : sameItem left right = true := by
  cases same with
  | header located otherLocated named otherNamed names =>
      have header : (Node.str "header").same (.str "header") = true := Node.same_str_iff.mpr rfl
      simp [sameItem, located, otherLocated, named, otherNamed, header, names]
  | elsewhere located otherLocated elsewhere together named otherNamed names =>
      rw [ne_eq, ← Node.same_str_iff, Bool.not_eq_true] at elsewhere
      simp [sameItem, located, otherLocated, named, otherNamed, elsewhere, together, names]

theorem SameParameter.symm (named : left.isNamed = true) (others : right.isNamed = true)
    (same : SameParameter left right) : SameParameter right left := by
  cases same with
  | header located otherLocated nameHeld otherHeld names =>
      exact .header otherLocated located otherHeld nameHeld names.symm
  | elsewhere located otherLocated elsewhere together nameHeld otherHeld names =>
      have back := Node.same_symm (Node.isNamed_of_get? named located)
        (Node.isNamed_of_get? others otherLocated) together
      have namesBack := Node.same_symm (Node.isNamed_of_get? named nameHeld)
        (Node.isNamed_of_get? others otherHeld) names
      refine .elsewhere otherLocated located ?_ back otherHeld nameHeld namesBack
      rintro rfl
      exact elsewhere (Node.same_str_iff.mp together)

/-- Among parameters that are merged into a list no two become one. -/
theorem pairwise_foldl_keepNew (named : ∀ item ∈ present ++ items, item.isNamed = true)
    (distinct : present.Pairwise fun first second => ¬ SameParameter first second) :
    (items.foldl keepNew present).Pairwise fun first second => ¬ SameParameter first second := by
  induction items generalizing present with
  | nil => exact distinct
  | cons item items ih =>
      have itemNamed := named item (by simp)
      rw [List.foldl_cons, keepNew]
      split
      · refine ih (fun other among => named other ?_) distinct
        rcases List.mem_append.mp among with among | among
        · exact List.mem_append_left _ among
        · exact List.mem_append_right _ (List.mem_cons_of_mem _ among)
      · rename_i fresh
        refine ih (fun other among => named other ?_) ?_
        · simpa using among
        · refine List.pairwise_append.mpr ⟨distinct, List.pairwise_singleton _ _, ?_⟩
          intro first among second here same
          cases List.mem_singleton.mp here
          -- the new item was compared with those that are kept, and not they with it
          have alike := sameItem_of_sameParameter
            (same.symm (named first (List.mem_append_left _ among)) itemNamed)
          exact fresh (List.any_eq_true.mpr ⟨first, among, alike⟩)

/-! ## Objects -/

namespace Members

/-- Members with others set among them, one after the other. -/
def updated (held given : Members) : Members :=
  given.foldl (fun members member => put member.1 member.2 members) held

theorem lookup_updated (distinct : (keys given).Nodup) (key : Key) :
    (updated held given).lookup key = (given.lookup key).or (held.lookup key) := by
  induction given generalizing held with
  | nil => rfl
  | cons first given ih =>
      obtain ⟨head, value⟩ := first
      rw [keys_cons, List.nodup_cons] at distinct
      rw [updated, List.foldl_cons]
      refine (ih distinct.2).trans ?_
      by_cases here : head = key
      · subst here
        rw [lookup_eq_none_iff.mpr distinct.1, lookup_put_self, lookup_cons_of_eq rfl]
        rfl
      · rw [lookup_put_ne (Ne.symm here), lookup_cons_of_ne here]

/-- Known keys keep their places, and new ones follow in order. -/
theorem keys_updated (distinct : (keys given).Nodup) :
    keys (updated held given) = keys held ++ (keys given).filter (· ∉ keys held) := by
  induction given generalizing held with
  | nil => simp [updated]
  | cons first given ih =>
      obtain ⟨head, value⟩ := first
      rw [keys_cons, List.nodup_cons] at distinct
      rw [updated, List.foldl_cons]
      refine (ih distinct.2).trans ?_
      by_cases present : head ∈ keys held
      · rw [keys_put_of_mem present, keys_cons, List.filter_cons_of_neg (by simp [present])]
      · rw [keys_put_of_not_mem present, keys_cons, List.filter_cons_of_pos (by simp [present]),
          List.append_assoc, List.singleton_append]
        refine congrArg (keys held ++ head :: ·) (List.filter_congr fun key among => ?_)
        have other : key ≠ head := by
          rintro rfl
          exact distinct.1 among
        simp [other]

end Members

theorem Change.apply_object (kind : change.kind = .merge) (value : change.value = .object given)
    (names : (Node.object given).isNamed = true) (located : change.locate document = .ok way)
    (readable : ∀ part ∈ way, part.isReadable = true)
    (reached : document.at? way = some (.object held)) :
    change.apply document = .ok (Node.graft (.object (Members.updated held given)) way document) := by
  have looked := lookupFor_of_at? reached
  have planned : change.plan document = .ok (given.map fun entry =>
      .add (tokensOf way ++ [entry.1.display]) entry.2) := by
    rw [plan, kind, planMerge, located]
    simp only [bind, Except.bind, looked, value]
  have possible : ∀ entry ∈ given, ∀ members : Members,
      Shape.add entry.2 entry.1.display (Node.object members).shape =
        .ok (Node.object (Members.put entry.1 entry.2 members)).shape := by
    intro entry among members
    obtain ⟨⟨name, same⟩, _⟩ := Node.isNamed_of_mem names among
    rw [same]
    rfl
  exact apply_of_plan planned
    (Edit.applyAll_adds _ _ (fun entry : Key × Node => entry.1.display) Prod.snd readable possible
      reached)

/-! ## Lists and objects -/

def parameterAt (name location : String) : Node :=
  .object [(.str "name", .str name), (.str "in", .str location)]

/-- A document with a header under a key that needs an escape, and with an object under a key that
stands for the end of a list elsewhere. -/
def escapedKeys : Node :=
  .object [(.str "a/b", .list [parameterAt "X-Id" "header"]),
    (.str "-", .object [(.str "0", .int 1), (.str "~1", .int 2)])]

def moreParameters : Change :=
  .mk .merge "$['a/b']" none none (.list [parameterAt "x-id" "header", parameterAt "x-id" "query"])

def moreMembers : Change :=
  .mk .merge "$['-']" none none (.object [(.str "~1", .int 3), (.str "-", .int 4)])

end ApiReview
