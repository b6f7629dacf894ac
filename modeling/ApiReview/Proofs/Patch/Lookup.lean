import ApiReview.Proofs.Patch.Parents

/-! What a walk along a way can come to. It finds a node, or finds that a part is
missing, or stops at a list that has no item so far in front of its end; nothing
else happens, whatever the way and the document. -/

set_option autoImplicit false

namespace ApiReview.Node

variable {document node base child : Node} {part : Part} {parts front rest : List Part}
  {items : List Node} {index : Int} {fault : Fault}

/-- A way counts from the end of a list past its start. -/
def OverrunsStart (document : Node) (parts : List Part) : Prop :=
  ∃ front index rest items, parts = front ++ .position index :: rest ∧
    document.lookup? front = .ok (some (.list items)) ∧ index < -Int.ofNat items.length

/-! ## One step -/

theorem itemAt?_eq_none_iff : itemAt? items index = none ↔
    index < -Int.ofNat items.length ∨ Int.ofNat items.length ≤ index := by
  rw [itemAt?]
  split
  · rename_i forward
    rw [List.getElem?_eq_none_iff]
    simp only [Int.ofNat_eq_natCast]
    omega
  · split
    · rename_i backward inside
      rw [List.getElem?_eq_none_iff]
      simp only [Int.ofNat_eq_natCast] at inside ⊢
      omega
    · rename_i backward outside
      exact iff_of_true rfl (.inl (by omega))

theorem child?_position (items : List Node) (index : Int) :
    (Node.list items).child? (.position index) =
      if index < -Int.ofNat items.length then .error .outOfRange else .ok (itemAt? items index) := by
  have missing : itemAt? items index = none ↔
      index < -(items.length : Int) ∨ (items.length : Int) ≤ index := itemAt?_eq_none_iff
  rw [child?]
  simp only [Int.ofNat_eq_natCast]
  by_cases beyond : (items.length : Int) ≤ index
  · rw [if_pos beyond, if_neg (by omega), missing.mpr (.inr beyond)]
  · rw [if_neg beyond]
    cases read : itemAt? items index with
    | none => rw [if_pos ((missing.mp read).resolve_right beyond)]
    | some item =>
        refine (if_neg fun before => ?_).symm
        rw [missing.mpr (.inl before)] at read
        cases read

theorem child?_eq_error_iff : node.child? part = .error fault ↔
    fault = .outOfRange ∧ ∃ items index, node = .list items ∧ part = .position index ∧
      index < -Int.ofNat items.length := by
  constructor
  · intro failed
    cases node with
    | list items =>
        cases part with
        | name name => cases failed
        | position index =>
            rw [child?_position] at failed
            split at failed
            · rename_i before
              cases failed
              exact ⟨rfl, items, index, rfl, rfl, before⟩
            · cases failed
    | object members => cases part <;> cases failed
    | _ => cases failed
  · rintro ⟨rfl, items, index, rfl, rfl, before⟩
    rw [child?_position, if_pos before]

/-! ## Walks -/

theorem lookup?_cons_of_some (stepped : node.child? part = .ok (some child)) (rest : List Part) :
    node.lookup? (part :: rest) = child.lookup? rest := by
  rw [lookup?, stepped]
  rfl

theorem lookup?_cons_of_none (missing : node.child? part = .ok none) (rest : List Part) :
    node.lookup? (part :: rest) = .ok none := by
  rw [lookup?, missing]
  rfl

theorem lookup?_cons_of_error (failed : node.child? part = .error fault) (rest : List Part) :
    node.lookup? (part :: rest) = .error fault := by
  rw [lookup?, failed]
  rfl

/-- A walk goes on from where its front leads. -/
theorem lookup?_behind (reached : node.lookup? front = .ok (some base)) (rest : List Part) :
    node.lookup? (front ++ rest) = base.lookup? rest := by
  induction front generalizing node with
  | nil =>
      cases reached
      rfl
  | cons part front ih =>
      rw [lookup?] at reached
      obtain ⟨child?, stepped, reached⟩ := bind_ok reached
      cases child? with
      | none => cases reached
      | some child =>
          rw [List.cons_append, lookup?_cons_of_some stepped]
          exact ih reached

theorem lookup?_append_of_error (failed : node.lookup? front = .error fault) (rest : List Part) :
    node.lookup? (front ++ rest) = .error fault := by
  induction front generalizing node with
  | nil => cases failed
  | cons part front ih =>
      rw [lookup?] at failed
      rcases bind_eq_error_iff.mp failed with failed | ⟨child?, stepped, failed⟩
      · exact lookup?_cons_of_error failed _
      · cases child? with
        | none => cases failed
        | some child =>
            rw [List.cons_append, lookup?_cons_of_some stepped]
            exact ih failed

/-- The only way for a walk to fail is to count past the start of a list. -/
theorem lookup?_eq_error_iff :
    document.lookup? parts = .error fault ↔ fault = .outOfRange ∧ document.OverrunsStart parts := by
  constructor
  · intro failed
    induction parts generalizing document with
    | nil => cases failed
    | cons part rest ih =>
        cases stepped : document.child? part with
        | error other =>
            rw [lookup?_cons_of_error stepped] at failed
            cases failed
            obtain ⟨rfl, items, index, rfl, rfl, before⟩ := child?_eq_error_iff.mp stepped
            exact ⟨rfl, [], index, rest, items, rfl, rfl, before⟩
        | ok child? =>
            cases child? with
            | none =>
                rw [lookup?_cons_of_none stepped] at failed
                cases failed
            | some child =>
                rw [lookup?_cons_of_some stepped] at failed
                obtain ⟨rfl, front, index, behind, items, rfl, reached, before⟩ := ih failed
                refine ⟨rfl, part :: front, index, behind, items, rfl, ?_, before⟩
                rw [lookup?_cons_of_some stepped]
                exact reached
  · rintro ⟨rfl, front, index, rest, items, rfl, reached, before⟩
    rw [lookup?_behind reached]
    exact lookup?_cons_of_error (by rw [child?_position, if_pos before]) rest

/-- What a walk along a way comes to. -/
theorem lookup?_cases (document : Node) (parts : List Part) :
    (∃ found?, document.lookup? parts = .ok found? ∧ ¬ document.OverrunsStart parts) ∨
      document.lookup? parts = .error .outOfRange ∧ document.OverrunsStart parts := by
  cases looked : document.lookup? parts with
  | ok found? =>
      refine .inl ⟨found?, rfl, fun overruns => ?_⟩
      rw [lookup?_eq_error_iff.mpr ⟨rfl, overruns⟩] at looked
      cases looked
  | error fault =>
      obtain ⟨rfl, overruns⟩ := lookup?_eq_error_iff.mp looked
      exact .inr ⟨rfl, overruns⟩

end ApiReview.Node

namespace ApiReview

def singleItem : Node := .object [(.str "x", .list [.int 1])]

theorem overrunsStart_singleItem : singleItem.OverrunsStart [.name "x", .position (-2)] :=
  ⟨[.name "x"], -2, [], [.int 1], rfl, rfl, by decide⟩

end ApiReview
