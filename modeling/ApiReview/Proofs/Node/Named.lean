import Mathlib
import ApiReview.Proofs.Node.Way

/-! Documents whose objects are all keyed by distinct names, as those read from
JSON are. Every part of such a document is one. -/

set_option autoImplicit false

namespace ApiReview

/-- Whether a key is a name. -/
def Key.isName : Key → Bool
  | .str _ => true
  | _ => false

theorem Key.eq_str_of_isName {key : Key} (named : key.isName = true) : ∃ name, key = .str name := by
  cases key with
  | str name => exact ⟨name, rfl⟩
  | _ => cases named

namespace Node

mutual

/-- Whether the keys of every object in a document are distinct names, as they are in all JSON. -/
def isNamed : Node → Bool
  | .list items => areNamed items
  | .object members => decide (Members.keys members).Nodup && haveNames members
  | _ => true

/-- Whether all items of a list are named documents. -/
def areNamed : List Node → Bool
  | [] => true
  | item :: rest => item.isNamed && areNamed rest

/-- Whether all members of an object have names and are named documents. -/
def haveNames : List (Key × Node) → Bool
  | [] => true
  | (key, value) :: rest => key.isName && value.isNamed && haveNames rest

end

variable {items : List Node} {members : Members} {item node found value : Node} {key : Key}

theorem isNamed_of_mem_areNamed (named : areNamed items = true) (among : item ∈ items) :
    item.isNamed = true := by
  induction items with
  | nil => cases among
  | cons first rest ih =>
      rw [areNamed, Bool.and_eq_true] at named
      rcases List.mem_cons.mp among with rfl | among
      · exact named.1
      · exact ih named.2 among

theorem named_of_mem_haveNames (named : haveNames members = true) (among : (key, value) ∈ members) :
    key.isName = true ∧ value.isNamed = true := by
  induction members with
  | nil => cases among
  | cons first rest ih =>
      obtain ⟨head, held⟩ := first
      rw [haveNames, Bool.and_eq_true, Bool.and_eq_true] at named
      rcases List.mem_cons.mp among with here | among
      · cases here
        exact named.1
      · exact ih named.2 among

theorem distinct_of_isNamed (named : (Node.object members).isNamed = true) :
    (Members.keys members).Nodup := by
  rw [isNamed, Bool.and_eq_true] at named
  exact of_decide_eq_true named.1

theorem isNamed_of_mem (named : (Node.object members).isNamed = true)
    (among : (key, value) ∈ members) : (∃ name, key = .str name) ∧ value.isNamed = true := by
  rw [isNamed, Bool.and_eq_true] at named
  obtain ⟨name, inside⟩ := named_of_mem_haveNames named.2 among
  exact ⟨Key.eq_str_of_isName name, inside⟩

theorem isNamed_of_get? {name : String} (named : (Node.object members).isNamed = true)
    (read : Members.get? members name = some value) : value.isNamed = true :=
  (isNamed_of_mem named (Members.mem_of_lookup read)).2

theorem isNamed_of_item (named : (Node.list items).isNamed = true) (among : item ∈ items) :
    item.isNamed = true :=
  isNamed_of_mem_areNamed named among

theorem isNamed_of_part? {part : Part} (named : node.isNamed = true)
    (stepped : node.part? part = some found) : found.isNamed = true := by
  rcases takes_cases (takes_of_part? stepped) with
    ⟨name, members, rfl, rfl⟩ | ⟨index, items, rfl, rfl, _⟩
  · exact isNamed_of_get? named stepped
  · exact isNamed_of_item named (List.mem_of_getElem? stepped)

theorem isNamed_of_at? {way : List Part} (named : node.isNamed = true)
    (reached : node.at? way = some found) : found.isNamed = true := by
  induction way generalizing node with
  | nil =>
      cases reached
      exact named
  | cons part rest ih =>
      obtain ⟨child, stepped, reached⟩ := Option.bind_eq_some_iff.mp reached
      exact ih (isNamed_of_part? named stepped) reached

/-! ## After an edit -/

theorem haveNames_put {name : String} (named : haveNames members = true)
    (valueNamed : value.isNamed = true) :
    haveNames (Members.put (.str name) value members) = true := by
  induction members with
  | nil => simp [Members.put, haveNames, Key.isName, valueNamed]
  | cons first rest ih =>
      obtain ⟨key, held⟩ := first
      rw [haveNames, Bool.and_eq_true, Bool.and_eq_true] at named
      by_cases same : key = .str name
      · rw [Members.put_cons_of_eq same, haveNames, named.1.1, valueNamed, named.2]
        rfl
      · rw [Members.put_cons_of_ne same, haveNames, named.1.1, named.1.2, ih named.2]
        rfl

theorem areNamed_set {index : Nat} (named : areNamed items = true)
    (valueNamed : value.isNamed = true) : areNamed (items.set index value) = true := by
  induction items generalizing index with
  | nil => rfl
  | cons first rest ih =>
      rw [areNamed, Bool.and_eq_true] at named
      cases index with
      | zero => rw [List.set_cons_zero, areNamed, valueNamed, named.2, Bool.and_self]
      | succ index => rw [List.set_cons_succ, areNamed, named.1, ih named.2, Bool.and_self]

theorem haveNames_renameKey {old : Key} (new : String) (named : haveNames members = true) :
    haveNames (Members.renameKey old (.str new) members) = true := by
  induction members with
  | nil => rfl
  | cons first rest ih =>
      obtain ⟨key, held⟩ := first
      rw [haveNames, Bool.and_eq_true, Bool.and_eq_true] at named
      have later := ih named.2
      rw [Members.renameKey] at later
      rw [Members.renameKey, List.map_cons, haveNames, later, named.1.2, Bool.and_true,
        Bool.and_true]
      split
      · rfl
      · exact named.1.1

theorem isNamed_renameKey {old : Key} {new : String}
    (named : (Node.object members).isNamed = true) (absent : Members.has members new = false) :
    (Node.object (Members.renameKey old (.str new) members)).isNamed = true := by
  rw [isNamed, Bool.and_eq_true] at named ⊢
  refine ⟨decide_eq_true ?_, haveNames_renameKey new named.2⟩
  exact Members.nodup_keys_renameKey (of_decide_eq_true named.1) (Members.has_eq_false_iff.mp absent)

/-- A named value that is put into a named document leaves it one. -/
theorem isNamed_graft {way : List Part} (named : node.isNamed = true)
    (valueNamed : value.isNamed = true) : (graft value way node).isNamed = true := by
  induction way generalizing node with
  | nil => exact valueNamed
  | cons part rest ih =>
      have inner : (graft value rest ((node.part? part).getD (.object []))).isNamed = true := by
        cases stepped : node.part? part with
        | none => exact ih rfl
        | some child => exact ih (isNamed_of_part? named stepped)
      rw [graft_cons]
      cases taken : node.takes part with
      | false => rwa [withPart_of_not_takes taken]
      | true =>
          rcases takes_cases taken with ⟨name, members, rfl, rfl⟩ | ⟨index, items, rfl, rfl, _⟩
          · rw [isNamed, Bool.and_eq_true] at named
            rw [withPart, isNamed, Bool.and_eq_true]
            refine ⟨decide_eq_true (Members.nodup_keys_put (of_decide_eq_true named.1)), ?_⟩
            exact haveNames_put named.2 inner
          · exact areNamed_set named inner

end Node

end ApiReview
