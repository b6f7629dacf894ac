import ApiReview.Proofs.Node.Way

/-! What stays of a document when a value is put into it. A place that is neither
above nor below the value's holds what it held. What lies above keeps its kind: an
object its members in order, perhaps with a new one at the end, and a list its
length. -/

set_option autoImplicit false

namespace ApiReview.Node

/-- The nodes of one place before and after an edit further down. -/
inductive Alike : Node → Node → Prop
  | same (node : Node) : Alike node node
  | objects {before after : Members}
      (front : ∀ key, (Members.keys before).head? = some key →
        (Members.keys after).head? = some key) : Alike (.object before) (.object after)
  | lists {before after : List Node} (count : before.length = after.length) :
      Alike (.list before) (.list after)

variable {node before after found value : Node} {members : Members} {items : List Node}
  {way place : List Part} {part : Part} {text name : String}

/-! ## Nodes of one place -/

theorem Alike.eq_str (alike : Alike (.str text) after) : after = .str text := by
  cases alike with
  | same => rfl

theorem Alike.str_eq (alike : Alike before (.str text)) : before = .str text := by
  cases alike with
  | same => rfl

theorem Alike.of_object (alike : Alike (.object members) after) :
    ∃ now, after = .object now ∧ ∀ key, (Members.keys members).head? = some key →
      (Members.keys now).head? = some key := by
  cases alike with
  | same => exact ⟨members, rfl, fun _ front => front⟩
  | objects front => exact ⟨_, rfl, front⟩

theorem alike_withPart : Alike node (node.withPart part value) := by
  cases taken : node.takes part with
  | false =>
      rw [withPart_of_not_takes taken]
      exact .same node
  | true =>
      rcases takes_cases taken with ⟨name, members, rfl, rfl⟩ | ⟨index, items, rfl, rfl, _⟩
      · refine .objects fun key front => ?_
        cases members with
        | nil => cases front
        | cons first rest =>
            obtain ⟨head, held⟩ := first
            by_cases same : head = .str name
            · rw [Members.put_cons_of_eq same]
              exact front
            · rw [Members.put_cons_of_ne same]
              exact front
      · exact .lists List.length_set.symm

/-! ## Reading at places -/

theorem get?_eq_part? (node : Node) (name : String) : node.get? name = node.part? (.name name) := by
  cases node <;> rfl

theorem at?_member (found : before.at? place = some node) (name : String) :
    before.at? (place ++ [.name name]) = node.get? name := by
  rw [at?_append_of_some found, at?_singleton, get?_eq_part?]

/-- What lies outside of the place of a grafted value has the same kind as before. -/
theorem at?_graft_apart (value : Node) (apart : ¬ way <+: place)
    (found : before.at? place = some node) :
    ∃ now, (graft value way before).at? place = some now ∧ Alike node now := by
  induction place generalizing way before with
  | nil =>
      cases found
      cases way with
      | nil => exact absurd (List.prefix_refl []) apart
      | cons part rest => exact ⟨_, rfl, alike_withPart⟩
  | cons step place ih =>
      cases way with
      | nil => exact absurd List.nil_prefix apart
      | cons part rest =>
          obtain ⟨child, stepped, found⟩ := Option.bind_eq_some_iff.mp found
          rw [graft_cons, at?_cons]
          by_cases same : step = part
          · subst same
            have below : ¬ rest <+: place := fun inside =>
              apart (List.cons_prefix_cons.mpr ⟨rfl, inside⟩)
            rw [part?_withPart_self (takes_of_part? stepped), stepped]
            exact ih below found
          · rw [part?_withPart_ne same, stepped]
            exact ⟨node, found, .same node⟩

/-- What lies neither above nor below the place of a grafted value is as before. -/
theorem at?_graft_beside (apart : ¬ way <+: place) (aside : ¬ place <+: way) :
    (graft value way before).at? place = before.at? place := by
  induction place generalizing way before with
  | nil => exact absurd List.nil_prefix aside
  | cons step place ih =>
      cases way with
      | nil => exact absurd List.nil_prefix apart
      | cons part rest =>
          rw [graft_cons, at?_cons, at?_cons]
          by_cases same : step = part
          · subst same
            have below : ¬ rest <+: place := fun inside =>
              apart (List.cons_prefix_cons.mpr ⟨rfl, inside⟩)
            have above : ¬ place <+: rest := fun inside =>
              aside (List.cons_prefix_cons.mpr ⟨rfl, inside⟩)
            cases taken : before.takes step with
            | false => rw [withPart_of_not_takes taken]
            | true =>
                rw [part?_withPart_self taken, Option.bind_some, ih below above]
                cases before.part? step with
                | some child => rfl
                | none => exact at?_empty fun empty => above (empty ▸ List.nil_prefix)
          · rw [part?_withPart_ne same]

/-- Reading outside of a grafted value, at a place that the graft did not open. -/
theorem at?_graft_alike (apart : ¬ way <+: place)
    (known : place <+: way → ∃ node, before.at? place = some node) :
    Option.Rel Alike (before.at? place) ((graft value way before).at? place) := by
  by_cases above : place <+: way
  · obtain ⟨node, found⟩ := known above
    obtain ⟨now, reached, alike⟩ := at?_graft_apart value apart found
    rw [found, reached]
    exact .some alike
  · rw [at?_graft_beside apart above]
    cases before.at? place with
    | none => exact .none
    | some node => exact .some (.same node)

/-- A member beside the way of a graft is as before in the object that it belongs to. -/
theorem get?_graft_beside (found : before.at? place = some (.object members))
    (outside : ¬ way <+: place) (beside : ¬ place ++ [.name name] <+: way) :
    ∃ later, (graft value way before).at? place = some (.object later) ∧
      Members.get? later name = Members.get? members name := by
  obtain ⟨now, reached, alike⟩ := at?_graft_apart value outside found
  obtain ⟨later, rfl, _⟩ := alike.of_object
  refine ⟨later, reached, ?_⟩
  have apart : ¬ way <+: place ++ [.name name] := fun inside =>
    (List.prefix_concat_iff.mp inside).elim
      (fun same => beside (same ▸ List.prefix_refl _)) outside
  have same : (graft value way before).at? (place ++ [.name name]) =
      before.at? (place ++ [.name name]) := at?_graft_beside apart beside
  rw [at?_member found, at?_member reached] at same
  exact same

end ApiReview.Node
