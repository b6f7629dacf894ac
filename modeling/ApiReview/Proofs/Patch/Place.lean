import ApiReview.Patch.Change
import ApiReview.Proofs.Node.Way
import ApiReview.Proofs.Number.Digits
import ApiReview.Proofs.Outcome

/-! What an edit at a pointer does to the document: it grafts a new value at the
place that the pointer names. The pointers are those of ways that exist in the
document, so that a token of digits is read as the position it was written for. -/

set_option autoImplicit false

namespace ApiReview

open ApiReview.Text

/-! ## Written positions -/

/-- A position that is written and read again is the same, if it can be read. -/
theorem listPosition_token {index position : Nat}
    (read : listPosition (Part.position (.ofNat index)).token = .ok position) :
    position = index := by
  have digits : (Part.position (.ofNat index)).token.toList = Nat.toDigits 10 index :=
    Nat.toList_repr
  have value := ofDigits?_toDigits index
  simp only [listPosition, digits, value] at read
  split at read
  · cases read
  · split at read
    · cases read
    · split at read
      · cases read
      · exact (Except.ok.inj read).symm

/-- Whether the token of a part can be read as the part again. -/
def Part.isReadable : Part → Bool
  | .name _ => true
  | .position index => !Integer.isUnwritable index

theorem listPosition_of_isReadable {index : Nat}
    (readable : (Part.position (.ofNat index)).isReadable = true) :
    listPosition (Part.position (.ofNat index)).token = .ok index := by
  have digits : (Part.position (.ofNat index)).token.toList = Nat.toDigits 10 index :=
    Nat.toList_repr
  have value := ofDigits?_toDigits index
  have plain : (Nat.toDigits 10 index).all Letter.isAsciiDigit = true := by
    rw [List.all_eq_true]
    exact fun c among => (decimalValue?_of_isDigit (isDigit_of_mem_toDigits among)).2
  have short : Integer.isTooLong (Nat.toDigits 10 index) = false := by
    rw [isTooLong_toDigits]
    simpa [Part.isReadable] using readable
  have some_digit : (Nat.toDigits 10 index).isEmpty = false := by
    rw [List.isEmpty_eq_false_iff]
    exact Nat.toDigits_ne_nil
  have front : ((Nat.toDigits 10 index).head? == some '0' &&
      decide (1 < (Nat.toDigits 10 index).length)) = false := no_leading_zero index
  simp only [listPosition, digits, value, plain, short, some_digit, front, Bool.not_true,
    Bool.or_self, Bool.false_eq_true, if_false]

/-! ## One step -/

namespace Node

variable {front rest way : List Part} {part : Part} {last : String}
  {node child found value document after parent : Node} {shape : Shape Node}

theorem child_of_part? (stepped : node.part? part = some child)
    (reached : node.shape.child part.token = .ok found) : found = child := by
  rcases takes_cases (takes_of_part? stepped) with
    ⟨name, members, rfl, rfl⟩ | ⟨index, items, rfl, rfl, within⟩
  · have read : Members.get? members name = some child := stepped
    simp only [Node.shape, Shape.child, Part.token, read] at reached
    exact (Except.ok.inj reached).symm
  · have read : items[index]? = some child := stepped
    simp only [Node.shape, Shape.child] at reached
    obtain ⟨position, written, reached⟩ := bind_ok reached
    rw [listPosition_token written, read] at reached
    exact (Except.ok.inj reached).symm

theorem withChild_of_takes (taken : node.takes part = true)
    (changed : node.shape.withChild value part.token = .ok shape) :
    shape.toNode = node.withPart part value := by
  rcases takes_cases taken with ⟨name, members, rfl, rfl⟩ | ⟨index, items, rfl, rfl, within⟩
  · simp only [Node.shape, Shape.withChild] at changed
    split at changed
    · rw [← Except.ok.inj changed]
      rfl
    · cases changed
  · simp only [Node.shape, Shape.withChild] at changed
    obtain ⟨position, written, changed⟩ := bind_ok changed
    rw [listPosition_token written, if_pos within] at changed
    rw [← Except.ok.inj changed]
    rfl

theorem child_of_readable (readable : part.isReadable = true) (stepped : node.part? part = some child) :
    node.shape.child part.token = .ok child := by
  rcases takes_cases (takes_of_part? stepped) with
    ⟨name, members, rfl, rfl⟩ | ⟨index, items, rfl, rfl, within⟩
  · have read : Members.get? members name = some child := stepped
    simp only [Node.shape, Shape.child, Part.token, read]
  · have read : items[index]? = some child := stepped
    simp only [Node.shape, Shape.child, listPosition_of_isReadable readable, bind, Except.bind, read]

theorem withChild_of_readable (value : Node) (readable : part.isReadable = true)
    (stepped : node.part? part = some child) :
    ∃ shape, node.shape.withChild value part.token = .ok shape ∧
      shape.toNode = node.withPart part value := by
  rcases takes_cases (takes_of_part? stepped) with
    ⟨name, members, rfl, rfl⟩ | ⟨index, items, rfl, rfl, within⟩
  · have read : Members.get? members name = some child := stepped
    have present : Members.has members name = true := by
      rw [Members.has, read]
      rfl
    refine ⟨.object (Members.put (.str name) value members), ?_, rfl⟩
    simp only [Node.shape, Shape.withChild, Part.token, present, if_true]
  · refine ⟨.list (items.set index value), ?_, rfl⟩
    simp only [Node.shape, Shape.withChild, listPosition_of_isReadable readable, bind, Except.bind,
      within, if_true]

/-! ## A whole way -/

theorem partAt_of_at? (reached : document.at? front = some found)
    (read : document.partAt (tokensOf front) = .ok value) : value = found := by
  induction front generalizing document with
  | nil =>
      cases reached
      exact (Except.ok.inj read).symm
  | cons part front ih =>
      obtain ⟨child, stepped, reached⟩ := Option.bind_eq_some_iff.mp reached
      obtain ⟨next, walked, read⟩ := bind_ok read
      rw [child_of_part? stepped walked] at read
      exact ih reached read

/-- An edit below a part that exists edits that part and puts it back. -/
theorem editAt_below {edit : String → Shape Node → Except EditError (Shape Node)}
    {behind : List String} (reached : document.at? front = some parent) (below : behind ≠ [])
    (edited : document.editAt edit (tokensOf front ++ behind) = .ok after) :
    ∃ changed, parent.editAt edit behind = .ok changed ∧ after = graft changed front document := by
  induction front generalizing document after with
  | nil =>
      cases reached
      exact ⟨after, edited, rfl⟩
  | cons part front ih =>
      obtain ⟨child, stepped, reached⟩ := Option.bind_eq_some_iff.mp reached
      obtain ⟨next, more, split⟩ : ∃ next more, tokensOf front ++ behind = next :: more :=
        List.exists_cons_of_ne_nil (by simp [below])
      have shape : tokensOf (part :: front) ++ behind = part.token :: next :: more := by
        rw [← split]
        rfl
      rw [shape, editAt] at edited
      obtain ⟨found, walked, edited⟩ := bind_ok edited
      obtain ⟨inner, inside, edited⟩ := bind_ok edited
      obtain ⟨whole, put, result⟩ := bind_ok edited
      rw [child_of_part? stepped walked, ← split] at inside
      obtain ⟨changed, applied, rfl⟩ := ih reached inside
      refine ⟨changed, applied, ?_⟩
      rw [← Except.ok.inj result, withChild_of_takes (takes_of_part? stepped) put, graft_cons,
        stepped, Option.getD_some]

/-- An edit at a token below a part that exists edits that part and puts it back. -/
theorem editAt_ok {edit : String → Shape Node → Except EditError (Shape Node)}
    (reached : document.at? front = some parent)
    (edited : document.editAt edit (tokensOf front ++ [last]) = .ok after) :
    ∃ shape, edit last parent.shape = .ok shape ∧ after = graft shape.toNode front document := by
  obtain ⟨changed, inside, rfl⟩ := editAt_below reached (List.cons_ne_nil last []) edited
  obtain ⟨shape, applied, result⟩ := bind_ok inside
  cases result
  exact ⟨shape, applied, rfl⟩

/-- An edit below a part that exists, on a way whose tokens can be read, is made when it is possible
there. -/
theorem editAt_of_at? {edit : String → Shape Node → Except EditError (Shape Node)}
    (readable : ∀ part ∈ front, part.isReadable = true) (reached : document.at? front = some parent)
    (possible : edit last parent.shape = .ok shape) :
    document.editAt edit (tokensOf front ++ [last]) = .ok (graft shape.toNode front document) := by
  induction front generalizing document with
  | nil =>
      cases reached
      rw [tokensOf, List.map_nil, List.nil_append, editAt, possible]
      rfl
  | cons part front ih =>
      obtain ⟨child, stepped, reached⟩ := Option.bind_eq_some_iff.mp reached
      obtain ⟨next, more, split⟩ : ∃ next more, tokensOf front ++ [last] = next :: more :=
        List.exists_cons_of_ne_nil (by simp)
      have whole : tokensOf (part :: front) ++ [last] = part.token :: next :: more := by
        rw [← split]
        rfl
      have inner := ih (fun other among => readable other (List.mem_cons_of_mem _ among)) reached
      have walked := child_of_readable (readable part List.mem_cons_self) stepped
      obtain ⟨changed, put, same⟩ := withChild_of_readable (graft shape.toNode front child)
        (readable part List.mem_cons_self) stepped
      rw [split] at inner
      rw [whole, editAt, walked]
      simp only [bind, Except.bind, inner, put]
      rw [same, graft_cons, stepped, Option.getD_some]

/-- An edit below members that exist is made when it is possible there. -/
theorem editAt_names {edit : String → Shape Node → Except EditError (Shape Node)}
    {names : List String} (reached : document.at? (names.map .name) = some parent)
    (possible : edit last parent.shape = .ok shape) :
    document.editAt edit (names ++ [last]) =
      .ok (graft shape.toNode (names.map .name) document) := by
  have tokens : tokensOf (names.map .name) = names := by
    simp [tokensOf, Part.token, Function.comp_def]
  have made := editAt_of_at? (List.forall_mem_map.mpr fun _ _ => rfl) reached possible
  rwa [tokens] at made

theorem graft_append_of_some (reached : document.at? front = some parent) :
    graft value (front ++ rest) document = graft (graft value rest parent) front document := by
  rw [graft_append, reached, Option.getD_some]

end Node

/-! ## Edits -/

namespace Edit

variable {front : List Part} {name : String} {members : Members} {items : List Node}
  {value document after part : Node}

/-- Adding a part with a name to anything but a list is setting a member of an object. -/
theorem add_name_ok (reached : document.at? front = some part)
    (notList : ∀ items, part ≠ .list items)
    (edited : (Edit.add (tokensOf (front ++ [.name name])) value).apply document = .ok after) :
    after = Node.graft value (front ++ [.name name]) document ∧
      ∃ members, part = .object members := by
  have path : tokensOf (front ++ [.name name]) = tokensOf front ++ [name] := by
    simp [tokensOf, Part.token]
  obtain ⟨first, more, nonempty⟩ := List.exists_cons_of_ne_nil
    (show tokensOf front ++ [name] ≠ [] by simp)
  have edited : document.editAt (Shape.add value) (tokensOf front ++ [name]) = .ok after := by
    rw [path, nonempty] at edited
    rw [nonempty]
    exact edited
  obtain ⟨shape, added, rfl⟩ := Node.editAt_ok reached edited
  rw [Node.graft_append_of_some reached]
  cases part with
  | object members =>
      rw [← Except.ok.inj added]
      exact ⟨rfl, members, rfl⟩
  | list items => exact absurd rfl (notList items)
  | _ => cases added

/-- Adding behind the end of a list appends. -/
theorem add_end_ok (reached : document.at? front = some (.list items))
    (edited : (Edit.add (tokensOf front ++ ["-"]) value).apply document = .ok after) :
    after = Node.graft (.list (items ++ [value])) front document := by
  obtain ⟨first, more, nonempty⟩ := List.exists_cons_of_ne_nil
    (show tokensOf front ++ ["-"] ≠ [] by simp)
  have edited : document.editAt (Shape.add value) (tokensOf front ++ ["-"]) = .ok after := by
    rw [nonempty] at edited ⊢
    exact edited
  obtain ⟨shape, added, rfl⟩ := Node.editAt_ok reached edited
  rw [← Except.ok.inj added]
  rfl

/-- Adding a member to an object that can be reached grafts it. -/
theorem add_names {names : List String}
    (reached : document.at? (names.map .name) = some (.object members)) (value : Node) :
    (Edit.add (names ++ [name]) value).apply document =
      .ok (Node.graft value ((names ++ [name]).map .name) document) := by
  obtain ⟨first, more, nonempty⟩ := List.exists_cons_of_ne_nil
    (show names ++ [name] ≠ [] by simp)
  have possible : Shape.add value name (Node.object members).shape =
      .ok (.object (Members.put (.str name) value members)) := rfl
  have whole : (Edit.add (names ++ [name]) value).apply document =
      document.editAt (Shape.add value) (names ++ [name]) := by
    rw [nonempty]
    rfl
  rw [whole, Node.editAt_names reached possible, List.map_append,
    Node.graft_append_of_some reached]
  rfl

/-- Removing a member of an object that can be reached takes the first with its name. -/
theorem remove_names {names : List String}
    (reached : document.at? (names.map .name) = some (.object members))
    (present : Members.has members name = true) :
    (Edit.remove (tokensOf ((names ++ [name]).map .name))).apply document =
      .ok (Node.graft (.object (Members.erase (.str name) members)) (names.map .name)
        document) := by
  have path : tokensOf ((names ++ [name]).map .name) = names ++ [name] := by
    simp [tokensOf, Part.token, Function.comp_def]
  have possible : Shape.remove name (Node.object members).shape =
      .ok (.object (Members.erase (.str name) members)) := by
    rw [Node.shape, Shape.remove, if_pos present]
  rw [path]
  exact Node.editAt_names reached possible

/-- Replacing a part that can be reached puts the value in its place. -/
theorem replaceAt_ok (reached : document.at? front = some part)
    (edited : Node.replaceAt value (tokensOf front) document = .ok after) :
    after = Node.graft value front document := by
  rcases List.eq_nil_or_concat' front with rfl | ⟨above, last, rfl⟩
  · exact (Except.ok.inj edited).symm
  · obtain ⟨parent, above_reached, stepped⟩ := Node.at?_of_append reached
    rw [Node.at?_singleton] at stepped
    have path : tokensOf (above ++ [last]) = tokensOf above ++ [last.token] := by simp [tokensOf]
    obtain ⟨first, more, nonempty⟩ := List.exists_cons_of_ne_nil
      (show tokensOf above ++ [last.token] ≠ [] by simp)
    have edited : document.editAt (Shape.replace value) (tokensOf above ++ [last.token]) =
        .ok after := by
      rw [path, nonempty] at edited
      rw [nonempty]
      exact edited
    obtain ⟨shape, replaced, rfl⟩ := Node.editAt_ok above_reached edited
    rw [Shape.replace] at replaced
    split at replaced
    · cases replaced
    · rw [Node.graft_append_of_some above_reached,
        Node.withChild_of_takes (Node.takes_of_part? stepped) replaced]
      rfl

/-- Renaming a key gives it another name in its place. -/
theorem renameKey_ok {old new : String} (reached : document.at? front = some (.object members))
    (edited : (Edit.renameKey (tokensOf front) old new).apply document = .ok after) :
    after = Node.graft (.object (Members.renameKey (.str old) (.str new) members)) front
      document := by
  obtain ⟨found, read, edited⟩ := bind_ok edited
  rw [Node.partAt_of_at? reached read] at edited
  obtain ⟨shape, renamed, edited⟩ := bind_ok edited
  rw [← Except.ok.inj renamed] at edited
  exact replaceAt_ok reached edited

end Edit

end ApiReview
