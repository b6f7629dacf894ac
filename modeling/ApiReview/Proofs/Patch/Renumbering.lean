import ApiReview.Patch.Editable
import ApiReview.Proofs.Node.Members
import ApiReview.Proofs.Node.Renumbering

/-! Edits of graphs that differ in the numbers of their cells alone: they fail alike, or lead to
graphs that again differ in no more than that. No edit takes a cell away. -/

set_option autoImplicit false

namespace ApiReview

section Shapes

variable {First Second : Type} {related : First → Second → Prop}
  {members : List (Key × First)} {others : List (Key × Second)} {first : First} {second : Second}

/-! ## Lists -/

section Lists

variable {items : List First} {twins : List Second}

theorem aligned_getElem? (aligned : List.Forall₂ related items twins) (position : Nat) :
    Option.Rel related items[position]? twins[position]? := by
  induction aligned generalizing position with
  | nil => exact .none
  | cons pair _ ih =>
      cases position with
      | zero => exact .some pair
      | succ position => exact ih position

theorem aligned_insertIdx (aligned : List.Forall₂ related items twins)
    (value : related first second) (position : Nat) :
    List.Forall₂ related (items.insertIdx position first) (twins.insertIdx position second) := by
  induction aligned generalizing position with
  | nil =>
      cases position with
      | zero => exact .cons value .nil
      | succ position => exact .nil
  | cons pair rest ih =>
      cases position with
      | zero => exact .cons value (.cons pair rest)
      | succ position => exact .cons pair (ih position)

theorem aligned_set (aligned : List.Forall₂ related items twins) (value : related first second)
    (position : Nat) :
    List.Forall₂ related (items.set position first) (twins.set position second) := by
  induction aligned generalizing position with
  | nil => exact .nil
  | cons pair rest ih =>
      cases position with
      | zero => exact .cons value rest
      | succ position => exact .cons pair (ih position)

theorem aligned_eraseIdx (aligned : List.Forall₂ related items twins) (position : Nat) :
    List.Forall₂ related (items.eraseIdx position) (twins.eraseIdx position) := by
  induction aligned generalizing position with
  | nil => exact .nil
  | cons pair rest ih =>
      cases position with
      | zero => exact rest
      | succ position => exact .cons pair (ih position)

end Lists

/-! ## Members -/

namespace Members

theorem get?_paired (aligned : List.Forall₂ (Paired related) members others) (name : String) :
    Option.Rel related (get? members name) (get? others name) := by
  induction aligned with
  | nil => exact .none
  | @cons member other _ _ pair _ ih =>
      obtain ⟨key, value⟩ := member
      obtain ⟨_, twin⟩ := other
      obtain ⟨rfl, values⟩ := pair
      rw [get?, get?, List.lookup_cons, List.lookup_cons]
      cases Key.str name == key with
      | true => exact .some values
      | false => exact ih

theorem has_paired (aligned : List.Forall₂ (Paired related) members others) (name : String) :
    has members name = has others name := by
  have found := get?_paired aligned name
  rw [has, has]
  generalize get? members name = value? at found ⊢
  generalize get? others name = twin? at found ⊢
  cases found with
  | none => rfl
  | some _ => rfl

theorem put_paired (aligned : List.Forall₂ (Paired related) members others)
    (value : related first second) (key : Key) :
    List.Forall₂ (Paired related) (put key first members) (put key second others) := by
  induction aligned with
  | nil => exact .cons ⟨rfl, value⟩ .nil
  | @cons member other _ _ pair rest ih =>
      obtain ⟨present, held⟩ := member
      obtain ⟨_, twin⟩ := other
      obtain ⟨rfl, values⟩ := pair
      rw [put, put]
      split
      · exact .cons ⟨rfl, value⟩ rest
      · exact .cons ⟨rfl, values⟩ ih

theorem erase_paired (aligned : List.Forall₂ (Paired related) members others) (key : Key) :
    List.Forall₂ (Paired related) (erase key members) (erase key others) := by
  induction aligned with
  | nil => exact .nil
  | @cons member other _ _ pair rest ih =>
      obtain ⟨present, held⟩ := member
      obtain ⟨_, twin⟩ := other
      obtain ⟨rfl, values⟩ := pair
      rw [erase, erase]
      split
      · exact rest
      · exact .cons ⟨rfl, values⟩ ih

theorem renameKey_paired (aligned : List.Forall₂ (Paired related) members others) (old new : Key) :
    List.Forall₂ (Paired related) (renameKey old new members) (renameKey old new others) := by
  refine List.rel_map (fun member other pair => ?_) aligned
  obtain ⟨key, value⟩ := member
  obtain ⟨_, twin⟩ := other
  obtain ⟨rfl, values⟩ := pair
  exact ⟨rfl, values⟩

end Members

/-! ## Shapes -/

namespace Shape

variable {shape : Shape First} {other : Shape Second} {token : String}

theorem Matches.child (same : shape.Matches related other) :
    Agree related (Shape.child token shape) (Shape.child token other) := by
  cases same with
  | scalar value => exact .failed _
  | @list items twins aligned =>
      refine Agree.bind_same fun position => ?_
      have found := aligned_getElem? aligned position
      generalize items[position]? = value? at found ⊢
      generalize twins[position]? = twin? at found ⊢
      cases found with
      | none => exact .failed _
      | some value => exact .ok value
  | @object members others aligned =>
      have found := Members.get?_paired aligned token
      rw [Shape.child, Shape.child]
      generalize Members.get? members token = value? at found ⊢
      generalize Members.get? others token = twin? at found ⊢
      cases found with
      | none => exact .failed _
      | some value => exact .ok value

theorem Matches.add (same : shape.Matches related other) (value : related first second) :
    Agree (Matches related) (Shape.add first token shape) (Shape.add second token other) := by
  cases same with
  | scalar value => exact .failed _
  | list items =>
      rw [Shape.add, Shape.add]
      split
      · exact .ok (.list (List.rel_append items (.cons value .nil)))
      · refine Agree.bind_same fun position => ?_
        rw [items.length_eq]
        split
        · exact .ok (.list (aligned_insertIdx items value position))
        · exact .failed _
  | object members => exact .ok (.object (Members.put_paired members value _))

theorem Matches.withChild (same : shape.Matches related other) (value : related first second) :
    Agree (Matches related) (Shape.withChild first token shape) (Shape.withChild second token other) := by
  cases same with
  | scalar value => exact .failed _
  | list items =>
      refine Agree.bind_same fun position => ?_
      rw [items.length_eq]
      split
      · exact .ok (.list (aligned_set items value position))
      · exact .failed _
  | object members =>
      rw [Shape.withChild, Shape.withChild, Members.has_paired members]
      split
      · exact .ok (.object (Members.put_paired members value _))
      · exact .failed _

theorem Matches.replace (same : shape.Matches related other) (value : related first second) :
    Agree (Matches related) (Shape.replace first token shape) (Shape.replace second token other) := by
  rw [Shape.replace, Shape.replace]
  split
  · exact .failed _
  · exact same.withChild value

theorem Matches.remove (same : shape.Matches related other) :
    Agree (Matches related) (Shape.remove token shape) (Shape.remove token other) := by
  cases same with
  | scalar value => exact .failed _
  | list items =>
      refine Agree.bind_same fun position => ?_
      rw [items.length_eq]
      split
      · exact .ok (.list (aligned_eraseIdx items position))
      · exact .failed _
  | object members =>
      rw [Shape.remove, Shape.remove, Members.has_paired members]
      split
      · exact .ok (.object (Members.erase_paired members _))
      · exact .failed _

theorem Matches.renameKey (same : shape.Matches related other) (old new : String) :
    Agree (Matches related) (Shape.renameKey old new shape) (Shape.renameKey old new other) := by
  cases same with
  | scalar value => exact .failed _
  | list items => exact .failed _
  | object members => exact .ok (.object (Members.renameKey_paired members _ _))

end Shape

end Shapes

/-! ## Graphs -/

namespace Graph

variable {left right : Graph} {related : Nat → Nat → Prop} {first second : Nat}
  {path : List String}

theorem Renumbering.cellAt (same : Renumbering left right related) (pair : related first second)
    (path : List String) : Agree related (left.cellAt path first) (right.cellAt path second) := by
  induction path generalizing first second with
  | nil => exact .ok pair
  | cons token rest ih => exact (same.cells pair).child.bind fun _ _ below => ih below

/-- Edits of the content of a cell that fail alike, or lead to matching content. No scalar can be
edited. -/
structure EditsAlike (related : Nat → Nat → Prop)
    (edit other : String → Shape Nat → Except EditError (Shape Nat)) : Prop where
  agree : ∀ {token cell twin}, cell.Matches related twin →
    Agree (Shape.Matches related) (edit token cell) (other token twin)
  refuses : ∀ {token value}, edit token (.scalar value) = .error .conflict

theorem EditsAlike.isCompound {edit other : String → Shape Nat → Except EditError (Shape Nat)}
    (edits : EditsAlike related edit other) {token : String} {cell result : Shape Nat}
    (edited : edit token cell = .ok result) : cell.IsCompound := by
  cases cell with
  | scalar value =>
      rw [edits.refuses] at edited
      cases edited
  | _ => trivial

theorem editsAlike_add (pair : related first second) :
    EditsAlike related (Shape.add first) (Shape.add second) :=
  ⟨fun matched => matched.add pair, rfl⟩

theorem editsAlike_replace (pair : related first second) :
    EditsAlike related (Shape.replace first) (Shape.replace second) where
  agree matched := matched.replace pair
  refuses {token value} := by
    rw [Shape.replace]
    split <;> rfl

theorem editsAlike_remove : EditsAlike related Shape.remove Shape.remove :=
  ⟨fun matched => matched.remove, rfl⟩

theorem Renumbering.editAt {edit other : String → Shape Nat → Except EditError (Shape Nat)}
    (same : Renumbering left right related) (edits : EditsAlike related edit other)
    (path : List String) :
    Agree (Renumbering · · related) (left.editAt edit path) (right.editAt other path) := by
  rw [Graph.editAt, Graph.editAt]
  split
  · exact .failed _
  · next last _ =>
      refine (same.cellAt same.root path.dropLast).bind fun number twin pair => ?_
      refine Agree.bind_of_ok (edits.agree (same.cells pair)) fun cell content edited _ matched => ?_
      exact .ok (same.set pair (edits.isCompound edited) matched)

theorem Renumbering.replaceAt (same : Renumbering left right related) (pair : related first second)
    (path : List String) :
    Agree (Renumbering · · related) (left.replaceAt first path) (right.replaceAt second path) := by
  rw [Graph.replaceAt, Graph.replaceAt]
  split
  · exact .ok (same.withRoot pair)
  · exact same.editAt (editsAlike_replace pair) path

theorem Renumbered.apply (same : Renumbered left right) (edit : Edit) :
    Agree Renumbered (left.apply edit) (right.apply edit) := by
  obtain ⟨related, same⟩ := same
  cases edit with
  | add path value =>
      obtain ⟨wider, inserted, pair⟩ := same.insert value
      cases path with
      | nil => exact .ok ⟨wider, inserted.same.withRoot pair⟩
      | cons token rest =>
          exact (inserted.same.editAt (editsAlike_add pair) (token :: rest)).mono
            fun _ _ kept => ⟨wider, kept⟩
  | replace path value =>
      obtain ⟨wider, inserted, pair⟩ := same.insert value
      exact (inserted.same.replaceAt pair path).mono fun _ _ kept => ⟨wider, kept⟩
  | remove path => exact (same.editAt editsAlike_remove path).mono fun _ _ kept => ⟨related, kept⟩
  | renameKey path old new =>
      refine (same.cellAt same.root path).bind fun number twin pair => ?_
      refine ((same.cells pair).renameKey old new).bind fun renamed content matched => ?_
      exact ((same.push matched).replaceAt (.inr ⟨rfl, rfl⟩) path).mono fun _ _ kept => ⟨_, kept⟩

/-! ## Scalars that stand already -/

theorem editAt_concat {graph : Graph} {edit : String → Shape Nat → Except EditError (Shape Nat)}
    {front : List String} {name : String} {number : Nat} {cell : Shape Nat}
    (reached : graph.cellAt front graph.root = .ok number)
    (edited : edit name (graph.cell number) = .ok cell) :
    graph.editAt edit (front ++ [name]) = .ok (graph.set number cell) := by
  simp only [Graph.editAt, List.getLast?_concat, List.dropLast_concat, reached, edited, bind,
    Except.bind]

theorem insert_scalar {graph : Graph} {value : Node} (plain : value.shape = .scalar value) :
    graph.insert value = graph.push (.scalar value) := by
  cases value with
  | list items => cases plain
  | object members => cases plain
  | _ => rfl

theorem Closed.child_lt {graph : Graph} (closed : graph.Closed) {token : String} {number part : Nat}
    (inside : number < graph.cells.size) (found : (graph.cell number).child token = .ok part) :
    part < graph.cells.size := by
  refine closed.parts inside part ?_
  generalize graph.cell number = cell at found ⊢
  cases cell with
  | scalar value => cases found
  | list items =>
      obtain ⟨position, _, found⟩ := bind_ok found
      split at found
      · next present =>
        cases found
        exact List.mem_of_getElem? present
      · cases found
  | object members =>
      rw [Shape.child] at found
      split at found
      · next present =>
        cases found
        exact List.mem_map_of_mem (Members.mem_of_lookup present)
      · cases found

theorem Closed.cellAt_lt {graph : Graph} (closed : graph.Closed) {start number : Nat}
    (inside : start < graph.cells.size) (reached : graph.cellAt path start = .ok number) :
    number < graph.cells.size := by
  induction path generalizing start with
  | nil =>
      cases reached
      exact inside
  | cons token rest ih =>
      obtain ⟨part, found, reached⟩ := bind_ok reached
      exact ih (closed.child_lt inside found) reached

theorem Closed.cellAt_push {graph : Graph} (closed : graph.Closed) (cell : Shape Nat)
    {start : Nat} (inside : start < graph.cells.size) :
    (graph.push cell).1.cellAt path start = graph.cellAt path start := by
  induction path generalizing start with
  | nil => rfl
  | cons token rest ih =>
      rw [cellAt, cellAt, cell_push inside]
      cases found : (graph.cell start).child token with
      | error error => rfl
      | ok part => exact ih (closed.child_lt inside found)

/-- Cells of a graph, and of one in which a scalar has got another cell at one of its places. -/
def Replaced (graph : Graph) (old first second : Nat) : Prop :=
  first < graph.cells.size ∧ (second = first ∨ first = old ∧ second = graph.cells.size)

theorem put_replaced {graph : Graph} {members : List (Key × Nat)} {key : Key} {old : Nat}
    (parts : ∀ member ∈ members, member.2 < graph.cells.size)
    (present : members.lookup key = some old) :
    List.Forall₂ (Members.Paired (Replaced graph old)) members
      (Members.put key graph.cells.size members) := by
  induction members with
  | nil => cases present
  | cons member rest ih =>
      obtain ⟨held, number⟩ := member
      have inside : number < graph.cells.size := parts _ List.mem_cons_self
      have behind := fun other among => parts other (List.mem_cons_of_mem _ among)
      rw [Members.put]
      split
      · next same =>
        rw [Members.lookup_cons_of_eq same] at present
        cases present
        refine .cons ⟨rfl, inside, .inr ⟨rfl, rfl⟩⟩ (List.forall₂_same.mpr fun other among => ?_)
        exact ⟨rfl, behind other among, .inl rfl⟩
      · next different =>
        rw [Members.lookup_cons_of_ne different] at present
        exact .cons ⟨rfl, inside, .inl rfl⟩ (ih behind present)

def withMember (graph : Graph) (number : Nat) (members : List (Key × Nat)) (name : String)
    (value : Node) : Graph :=
  (graph.push (.scalar value)).1.set number
    (.object (Members.put (.str name) graph.cells.size members))

theorem Closed.renumbering_replaced {graph : Graph} (closed : graph.Closed) {name : String}
    {number old : Nat} {members : List (Key × Nat)} {value : Node} (inside : number < graph.cells.size)
    (held : graph.cell number = .object members) (present : Members.get? members name = some old)
    (same : graph.cell old = .scalar value) :
    Renumbering graph (graph.withMember number members name value) (Replaced graph old) := by
  have size : (graph.push (.scalar value)).1.cells.size = graph.cells.size + 1 := Array.size_push ..
  have parts := closed.parts inside
  rw [held] at parts
  have atNumber : (graph.withMember number members name value).cell number =
      .object (Members.put (.str name) graph.cells.size members) :=
    cell_set_self (size ▸ Nat.lt_succ_of_lt inside)
  have atSize : (graph.withMember number members name value).cell graph.cells.size =
      .scalar value := (cell_set_ne (Nat.ne_of_gt inside)).trans cell_push_self
  constructor
  · exact ⟨closed.root, .inl rfl⟩
  · rintro first second ⟨first_lt, rfl | ⟨rfl, rfl⟩⟩
    · rw [withMember, size_set, size]
      exact ⟨first_lt, Nat.lt_succ_of_lt first_lt⟩
    · rw [withMember, size_set, size]
      exact ⟨first_lt, Nat.lt_succ_self _⟩
  · rintro first second ⟨first_lt, moved⟩
    rcases moved with rfl | ⟨rfl, rfl⟩
    · by_cases edited : second = number
      · subst edited
        rw [atNumber, held]
        exact .object (put_replaced (fun member among => parts _ (List.mem_map_of_mem among)) present)
      · rw [withMember, cell_set_ne edited, cell_push first_lt]
        exact Shape.matches_self fun part among => ⟨closed.parts first_lt part among, .inl rfl⟩
    · rw [same, atSize]
      exact .scalar value
  -- The only cell that stands for two is the scalar, and it is the only one that two stand for.
  · rintro first second other ⟨_, here⟩ ⟨_, there⟩ compound
    have kept : ¬ first = old := by
      rintro rfl
      rw [same] at compound
      exact compound
    rw [here.resolve_right fun moved => kept moved.1, there.resolve_right fun moved => kept moved.1]
  · rintro first second other ⟨_, here⟩ ⟨_, there⟩ compound
    have kept : ¬ second = graph.cells.size := by
      rintro rfl
      rw [atSize] at compound
      exact compound
    rw [← here.resolve_right fun moved => kept moved.2, ← there.resolve_right fun moved => kept moved.2]

/-- A scalar that is added to an object under a name that holds the same scalar leaves a graph with
the same content. -/
theorem Closed.renumbered_add {graph : Graph} (closed : graph.Closed) {front : List String}
    {name : String} {number old : Nat} {members : List (Key × Nat)} {value : Node}
    (plain : value.shape = .scalar value) (reached : graph.cellAt front graph.root = .ok number)
    (held : graph.cell number = .object members)
    (present : Members.get? members name = some old) (same : graph.cell old = .scalar value) :
    ∃ after, graph.apply (.add (front ++ [name]) value) = .ok after ∧ Renumbered graph after := by
  have inside := closed.cellAt_lt closed.root reached
  refine ⟨_, ?_, _, closed.renumbering_replaced inside held present same⟩
  rw [Graph.apply, insert_scalar plain]
  · have content : (graph.push (.scalar value)).1.cell number = .object members :=
      (cell_push inside).trans held
    exact editAt_concat ((closed.cellAt_push _ closed.root).trans reached)
      (congrArg (Shape.add graph.cells.size name) content)
  · simp

/-! ## Sizes -/

variable {graph after : Graph} {number : Nat}

theorem size_le_push (cell : Shape Nat) : graph.cells.size ≤ (graph.push cell).1.cells.size := by
  simp [push]

mutual

theorem size_le_insert (graph : Graph) (value : Node) :
    graph.cells.size ≤ (graph.insert value).1.cells.size := by
  cases value with
  | list items => exact (size_le_insertItems graph items).trans (size_le_push _)
  | object members => exact (size_le_insertMembers graph members).trans (size_le_push _)
  | _ => exact size_le_push _

theorem size_le_insertItems (graph : Graph) (items : List Node) :
    graph.cells.size ≤ (graph.insertItems items).1.cells.size := by
  cases items with
  | nil => exact Nat.le_refl _
  | cons item rest => exact (size_le_insert graph item).trans (size_le_insertItems _ rest)

theorem size_le_insertMembers (graph : Graph) (members : List (Key × Node)) :
    graph.cells.size ≤ (graph.insertMembers members).1.cells.size := by
  match members with
  | [] => exact Nat.le_refl _
  | (_, value) :: rest => exact (size_le_insert graph value).trans (size_le_insertMembers _ rest)

end

theorem size_editAt {edit : String → Shape Nat → Except EditError (Shape Nat)}
    (edited : graph.editAt edit path = .ok after) : after.cells.size = graph.cells.size := by
  rw [editAt] at edited
  split at edited
  · cases edited
  · obtain ⟨number, _, edited⟩ := bind_ok edited
    obtain ⟨cell, _, shape⟩ := bind_ok edited
    cases shape
    exact size_set

theorem size_replaceAt (replaced : graph.replaceAt number path = .ok after) :
    after.cells.size = graph.cells.size := by
  rw [replaceAt] at replaced
  split at replaced
  · cases replaced
    rfl
  · exact size_editAt replaced

theorem size_le_apply {edit : Edit} (edited : graph.apply edit = .ok after) :
    graph.cells.size ≤ after.cells.size := by
  cases edit with
  | add path value =>
      cases path with
      | nil =>
          cases edited
          exact size_le_insert graph value
      | cons token rest =>
          rw [Graph.apply] at edited
          · exact (size_le_insert graph value).trans (size_editAt edited).ge
          · exact List.cons_ne_nil token rest
  | replace path value => exact (size_le_insert graph value).trans (size_replaceAt edited).ge
  | remove path => exact (size_editAt edited).ge
  | renameKey path old new =>
      obtain ⟨number, _, edited⟩ := bind_ok edited
      obtain ⟨renamed, _, edited⟩ := bind_ok edited
      exact (size_le_push renamed).trans (size_replaceAt edited).ge

end Graph

end ApiReview
