import Mathlib
import ApiReview.Address.Basic
import ApiReview.Proofs.Node.Members

/-! Ways into a document. A way is a list of steps, each to a member or to an item
counted from the front. Reading follows a way as far as it exists; grafting puts
a value at its end and opens empty objects for the members that are missing on
the way. Both are plain recursions on the way, and their laws hold for every
document; only that a grafted value can be read back needs an open way. -/

set_option autoImplicit false

namespace ApiReview.Node

variable {way rest above : List Part} {part other : Part} {node child value old : Node}

/-- The part of a node that one step leads to. -/
def part? : Part → Node → Option Node
  | .name name, .object members => Members.get? members name
  | .position (.ofNat index), .list items => items[index]?
  | _, _ => none

/-- The node at the end of a way. -/
def at? : List Part → Node → Option Node
  | [], node => some node
  | part :: rest, node => (node.part? part).bind (at? rest)

/-- The node with a value in place of one part. An object takes a new member, a list no new
item. -/
def withPart (part : Part) (node value : Node) : Node :=
  match part, node with
  | .name name, .object members => .object (Members.put (.str name) value members)
  | .position (.ofNat index), .list items => .list (items.set index value)
  | _, node => node

/-- The node with a value at the end of a way, and with empty objects for what is missing on it. -/
def graft (value : Node) : List Part → Node → Node
  | [], _ => value
  | part :: rest, node =>
    node.withPart part (graft value rest ((node.part? part).getD (.object [])))

/-- Whether a value that is put at the end of a step can be read there. -/
def takes : Part → Node → Bool
  | .name _, .object _ => true
  | .position (.ofNat index), .list items => index < items.length
  | _, _ => false

/-- Whether a value that is grafted at the end of a way can be read there. -/
def isOpen : List Part → Node → Bool
  | [], _ => true
  | part :: rest, node =>
    node.takes part && isOpen rest ((node.part? part).getD (.object []))

/-! ## Reading -/

@[simp] theorem at?_nil : node.at? [] = some node := rfl

theorem at?_cons : node.at? (part :: rest) = (node.part? part).bind (at? rest) := rfl

@[simp] theorem at?_singleton : node.at? [part] = node.part? part := by
  rw [at?_cons]
  cases node.part? part <;> rfl

theorem at?_append : node.at? (way ++ rest) = (node.at? way).bind (at? rest) := by
  induction way generalizing node with
  | nil => rfl
  | cons part way ih =>
      rw [List.cons_append, at?_cons, at?_cons]
      cases node.part? part with
      | none => rfl
      | some child => exact ih

theorem at?_append_of_some (found : node.at? way = some child) :
    node.at? (way ++ rest) = child.at? rest := by
  rw [at?_append, found, Option.bind_some]

theorem at?_of_append {found : Node} (reached : node.at? (way ++ rest) = some found) :
    ∃ between, node.at? way = some between ∧ between.at? rest = some found := by
  rw [at?_append] at reached
  exact Option.bind_eq_some_iff.mp reached

/-- A part is taken by an object under a name, or by a list at the position of one of its items. -/
theorem takes_cases (taken : node.takes part = true) :
    (∃ name members, part = .name name ∧ node = .object members) ∨
      ∃ index items, part = .position (.ofNat index) ∧ node = .list items ∧
        index < items.length := by
  cases part with
  | name name =>
      cases node with
      | object members => exact .inl ⟨name, members, rfl, rfl⟩
      | _ => cases taken
  | position index =>
      cases index with
      | negSucc index => cases node <;> cases taken
      | ofNat index =>
          cases node with
          | list items => exact .inr ⟨index, items, rfl, rfl, of_decide_eq_true taken⟩
          | _ => cases taken

theorem takes_of_part? (found : node.part? part = some child) : node.takes part = true := by
  cases part with
  | name name =>
      cases node with
      | object members => rfl
      | _ => cases found
  | position index =>
      cases index with
      | negSucc index => cases node <;> cases found
      | ofNat index =>
          cases node with
          | list items => exact decide_eq_true (List.getElem?_eq_some_iff.mp found).1
          | _ => cases found

/-- What stands under a name at a place is a member of the object there. -/
theorem exists_object_of_member {place : List Part} {name : String}
    (reached : node.at? (place ++ [.name name]) = some value) :
    ∃ members, node.at? place = some (.object members) ∧
      Members.get? members name = some value := by
  obtain ⟨owner, found, stepped⟩ := at?_of_append reached
  rw [at?_singleton] at stepped
  cases owner with
  | object members => exact ⟨members, found, stepped⟩
  | _ => cases stepped

/-! ## Putting one part -/

theorem withPart_of_not_takes (refused : node.takes part = false) :
    node.withPart part value = node := by
  cases part with
  | name name =>
      cases node with
      | object members => cases refused
      | _ => rfl
  | position index =>
      cases index with
      | negSucc index => cases node <;> rfl
      | ofNat index =>
          cases node with
          | list items =>
              have beyond : ¬ index < items.length := of_decide_eq_false refused
              exact congrArg Node.list (List.set_eq_of_length_le (by omega))
          | _ => rfl

theorem part?_withPart_self (taken : node.takes part = true) :
    (node.withPart part value).part? part = some value := by
  rcases takes_cases taken with ⟨name, members, rfl, rfl⟩ | ⟨index, items, rfl, rfl, within⟩
  · exact Members.get?_put_self
  · exact List.getElem?_set_self within

theorem part?_withPart_ne (different : other ≠ part) :
    (node.withPart part value).part? other = node.part? other := by
  cases taken : node.takes part with
  | false => rw [withPart_of_not_takes taken]
  | true =>
      rcases takes_cases taken with ⟨name, members, rfl, rfl⟩ | ⟨index, items, rfl, rfl, within⟩
      · cases other with
        | position old => cases old <;> rfl
        | name old => exact Members.get?_put_ne fun same => different (congrArg Part.name same)
      · cases other with
        | name old => rfl
        | position old =>
            cases old with
            | negSucc old => rfl
            | ofNat old =>
                refine List.getElem?_set_ne fun same => different ?_
                rw [same]

theorem withPart_of_part? (found : node.part? part = some value) : node.withPart part value = node := by
  rcases takes_cases (takes_of_part? found) with
    ⟨name, members, rfl, rfl⟩ | ⟨index, items, rfl, rfl, within⟩
  · exact congrArg Node.object (Members.put_of_lookup found)
  · have read : items[index] = value := (List.getElem?_eq_some_iff.mp found).2
    exact congrArg Node.list (read ▸ List.set_getElem_self within)

theorem withPart_withPart :
    (node.withPart part old).withPart part value = node.withPart part value := by
  cases taken : node.takes part with
  | false => rw [withPart_of_not_takes taken]
  | true =>
      rcases takes_cases taken with ⟨name, members, rfl, rfl⟩ | ⟨index, items, rfl, rfl, within⟩
      · exact congrArg Node.object Members.put_put
      · exact congrArg Node.list (List.set_set ..)

/-! ## Grafting -/

@[simp] theorem graft_nil : graft value [] node = value := rfl

theorem graft_cons :
    graft value (part :: rest) node =
      node.withPart part (graft value rest ((node.part? part).getD (.object []))) := rfl

theorem at?_empty (some_step : way ≠ []) : (Node.object []).at? way = none := by
  cases way with
  | nil => exact absurd rfl some_step
  | cons part rest =>
      cases part with
      | name name => rfl
      | position index => cases index <;> rfl

/-- Nothing but an object or a list has parts. -/
theorem at?_scalar (noObject : node.members? = none) (noList : node.items? = none)
    (reached : node.at? way = some value) : value = node := by
  cases way with
  | nil => exact (Option.some.inj reached).symm
  | cons part rest =>
      obtain ⟨child, stepped, _⟩ := Option.bind_eq_some_iff.mp reached
      rcases takes_cases (takes_of_part? stepped) with
        ⟨name, members, _, rfl⟩ | ⟨index, items, _, rfl, _⟩
      · cases noObject
      · cases noList

/-- Grafting at the end of a longer way grafts what stands at the end of its front. -/
theorem graft_append :
    graft value (way ++ rest) node =
      graft (graft value rest ((node.at? way).getD (.object []))) way node := by
  induction way generalizing node with
  | nil => rfl
  | cons part way ih =>
      rw [List.cons_append, graft_cons, graft_cons, ih, at?_cons]
      cases node.part? part with
      | some child => rfl
      | none =>
          cases way with
          | nil => rfl
          | cons next way =>
              rw [Option.bind_none, Option.getD_none, at?_empty (List.cons_ne_nil next way)]
              rfl

@[simp] theorem graft_graft : graft value way (graft old way node) = graft value way node := by
  induction way generalizing node with
  | nil => rfl
  | cons part rest ih =>
      rw [graft_cons, graft_cons, graft_cons]
      cases taken : node.takes part with
      | true => rw [part?_withPart_self taken, withPart_withPart, Option.getD_some, ih]
      | false => simp only [withPart_of_not_takes taken]

/-- Grafting what stands at the end of a way changes nothing. -/
theorem graft_of_at? (found : node.at? way = some value) : graft value way node = node := by
  induction way generalizing node with
  | nil => exact (Option.some.inj found).symm
  | cons part rest ih =>
      obtain ⟨child, stepped, found⟩ := Option.bind_eq_some_iff.mp found
      rw [graft_cons, stepped, Option.getD_some, ih found, withPart_of_part? stepped]

theorem at?_graft_self (opened : node.isOpen way = true) :
    (graft value way node).at? way = some value := by
  induction way generalizing node with
  | nil => rfl
  | cons part rest ih =>
      rw [isOpen, Bool.and_eq_true] at opened
      rw [graft_cons, at?_cons, part?_withPart_self opened.1, Option.bind_some]
      exact ih opened.2

theorem isOpen_of_at? (found : node.at? way = some child) : node.isOpen way = true := by
  induction way generalizing node with
  | nil => rfl
  | cons part rest ih =>
      obtain ⟨next, stepped, found⟩ := Option.bind_eq_some_iff.mp found
      rw [isOpen, takes_of_part? stepped, stepped, Option.getD_some, ih found, Bool.and_self]

theorem isOpen_append (found : node.at? way = some child) :
    node.isOpen (way ++ rest) = child.isOpen rest := by
  induction way generalizing node with
  | nil =>
      cases found
      rfl
  | cons part way ih =>
      obtain ⟨next, stepped, found⟩ := Option.bind_eq_some_iff.mp found
      rw [List.cons_append, isOpen, takes_of_part? stepped, stepped, Option.getD_some,
        ih found, Bool.true_and]

/-- An object that a value was set in holds the value under its name. -/
theorem graft_name_of_isOpen {name : String} (value : Node)
    (opened : node.isOpen [.name name] = true) :
    ∃ members, node = .object members ∧
      graft value [.name name] node = .object (Members.put (.str name) value members) := by
  rw [isOpen, Bool.and_eq_true] at opened
  rcases takes_cases opened.1 with ⟨_, members, same, rfl⟩ | ⟨_, _, impossible, _⟩
  · exact ⟨members, rfl, rfl⟩
  · cases impossible

/-- A value that was read at the end of a way can be put back. -/
theorem at?_graft_append (found : node.at? above = some old) :
    (graft value (above ++ rest) node).at? above = some (graft value rest old) := by
  rw [graft_append, found, Option.getD_some]
  exact at?_graft_self (isOpen_of_at? found)

end ApiReview.Node
