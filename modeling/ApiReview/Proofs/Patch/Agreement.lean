import ApiReview.Proofs.Address.Anchored
import ApiReview.Proofs.Patch.Lookup

/-! Matching an address and walking the way that it means. Where the address matches,
the walk finds the first match. Where it does not, the walk finds nothing, except
that it fails where the way counts past the start of a list: there the matching
just has no item to choose. -/

set_option autoImplicit false

namespace ApiReview

open Address

variable {document node found child : Node} {part : Part} {way parts missing : List Part}
  {selector : Selector} {address before after : Address} {text : String} {items : List Node}

/-! ## Selected parts -/

theorem child?_of_candidate (named : node.isNamed = true)
    (among : (part, found) ∈ Selector.candidates node) : node.child? part = .ok (some found) :=
  Node.child?_of_part? (part?_of_candidate named among)

/-- Every selected part is found by a step of the walk. -/
theorem child?_of_select (named : node.isNamed = true)
    (among : (part, found) ∈ selector.select node) : node.child? part = .ok (some found) := by
  cases selector with
  | crossing => cases among
  | filter conditions => exact child?_of_candidate named (List.mem_filter.mp among).1
  | step step =>
      cases step with
      | names names =>
          cases node with
          | object members =>
              obtain ⟨name, _, shape⟩ := List.mem_filterMap.mp among
              obtain ⟨value, read, shape⟩ := Option.map_eq_some_iff.mp shape
              cases shape
              exact congrArg Except.ok read
          | _ => cases among
      | positions indexes =>
          cases node with
          | list items =>
              obtain ⟨index, _, shape⟩ := List.mem_filterMap.mp among
              obtain ⟨item, read, shape⟩ := Option.map_eq_some_iff.mp shape
              cases shape
              rw [Node.child?_position, read]
              refine if_neg fun before => ?_
              rw [Node.itemAt?_eq_none_iff.mpr (.inl before)] at read
              cases read
          | _ => cases among
      | every =>
          cases node with
          | object members => exact child?_of_candidate named among
          | list items => exact child?_of_candidate named among
          | _ => cases among
      | slice start stop =>
          cases node with
          | list items =>
              exact child?_of_candidate named (List.mem_of_mem_take (List.mem_of_mem_drop among))
          | _ => cases among

/-- A part that could be created, where its selector selects nothing, is not found. -/
theorem child?_of_unselected (named : node.isNamed = true)
    (unselected : selector.select node = []) (creates : selector.newPart? = some part) :
    node.child? part = .ok none ∨ node.child? part = .error .outOfRange := by
  obtain ⟨step, rfl⟩ : ∃ step, selector = .step step := by
    cases selector with
    | step step => exact ⟨step, rfl⟩
    | _ => cases creates
  cases step with
  | names names =>
      obtain ⟨name, rfl⟩ : ∃ name, names = [name] := by
        rcases names with _ | ⟨name, _ | _⟩
        · cases creates
        · exact ⟨name, rfl⟩
        · cases creates
      cases creates
      refine .inl ((Node.child?_name name node).trans (congrArg Except.ok ?_))
      cases absent : node.part? (.name name) with
      | none => rfl
      | some value =>
          have selected := (select_member name node).symm.trans unselected
          rw [absent] at selected
          cases selected
  | positions indexes =>
      cases indexes with
      | nil => cases creates
      | cons index more =>
          cases creates
          cases node with
          | list items =>
              have absent : itemAt? items index = none := by
                cases read : itemAt? items index with
                | none => rfl
                | some item =>
                    rw [Selector.select, Step.select,
                      List.filterMap_cons_some (by rw [read]; rfl)] at unselected
                    cases unselected
              rw [Node.child?_position, absent]
              split
              · exact .inr rfl
              · exact .inl rfl
          | object members =>
              refine .inl (congrArg Except.ok ?_)
              cases found : members.lookup (Key.int index) with
              | none => rfl
              | some value =>
                  obtain ⟨⟨name, clash⟩, _⟩ :=
                    Node.isNamed_of_mem named (Members.mem_of_lookup found)
                  cases clash
          | _ => exact .inl rfl
  | _ => cases creates

theorem isNamed_of_child? (named : node.isNamed = true)
    (stepped : node.child? part = .ok (some found)) : found.isNamed = true := by
  cases node with
  | object members =>
      cases part with
      | name name => exact Node.isNamed_of_get? named (Except.ok.inj stepped)
      | position index =>
          exact (Node.isNamed_of_mem named (Members.mem_of_lookup (Except.ok.inj stepped))).2
  | list items =>
      cases part with
      | name name => cases stepped
      | position index =>
          rw [Node.child?_position] at stepped
          split at stepped
          · cases stepped
          · have read := Except.ok.inj stepped
            rw [itemAt?] at read
            split at read
            · exact Node.isNamed_of_item named (List.mem_of_getElem? read)
            · split at read
              · exact Node.isNamed_of_item named (List.mem_of_getElem? read)
              · cases read
  | _ => cases stepped

theorem isNamed_of_lookup? (named : node.isNamed = true)
    (reached : node.lookup? way = .ok (some found)) : found.isNamed = true := by
  induction way generalizing node with
  | nil =>
      cases reached
      exact named
  | cons part way ih =>
      obtain ⟨child?, stepped, reached⟩ := bind_ok reached
      cases child? with
      | none => cases reached
      | some child => exact ih (isNamed_of_child? named stepped) reached

/-! ## Matches -/

/-- Every match of an address is found by a walk along its way. -/
theorem lookup?_of_find (named : node.isNamed = true) (among : (way, found) ∈ find address node) :
    node.lookup? way = .ok (some found) := by
  induction address generalizing node way with
  | nil =>
      cases List.mem_singleton.mp among
      rfl
  | cons selector address ih =>
      obtain ⟨⟨part, child⟩, selected, behind⟩ := List.mem_flatMap.mp among
      obtain ⟨⟨rest, last⟩, inside, shape⟩ := List.mem_map.mp behind
      cases shape
      have stepped := child?_of_select named selected
      rw [Node.lookup?_cons_of_some stepped]
      exact ih (isNamed_of_child? named stepped) inside

/-- What does not match is dropped up to where the front of the address matches, and the first part
that is dropped there is missing below the first match of this front. -/
theorem lookup?_of_locateBackwards (named : document.isNamed = true)
    (unmatched : find address document = [])
    (located : locateBackwards document address.reverse missing = some parts) :
    document.lookup? parts = .ok none ∨ document.lookup? parts = .error .outOfRange := by
  induction address using List.reverseRecOn generalizing missing with
  | nil => cases unmatched
  | append_singleton before last ih =>
      rw [List.reverse_append, List.reverse_singleton, List.singleton_append, locateBackwards,
        List.reverse_reverse, unmatched] at located
      obtain ⟨part, creates, located⟩ := Option.bind_eq_some_iff.mp located
      cases matched : find before document with
      | nil => exact ih matched located
      | cons first others =>
          obtain ⟨way, base⟩ := first
          have head : (find before document).head? = some (way, base) := by rw [matched]; rfl
          rw [locateBackwards_of_find head] at located
          cases located
          have reached : document.lookup? way = .ok (some base) :=
            lookup?_of_find named (List.mem_of_mem_head? head)
          have unselected : last.select base = [] := by
            rw [find_append, matched, List.flatMap_cons] at unmatched
            have none := (List.append_eq_nil_iff.mp unmatched).1
            rw [List.map_eq_nil_iff, find, List.flatMap_eq_nil_iff] at none
            exact List.eq_nil_iff_forall_not_mem.mpr fun selected among => by
              cases none selected among
          rw [Node.lookup?_behind reached]
          rcases child?_of_unselected (isNamed_of_lookup? named reached) unselected creates with
            absent | outside
          · exact .inl (Node.lookup?_cons_of_none absent missing)
          · exact .inr (Node.lookup?_cons_of_error outside missing)

/-! ## Agreement -/

theorem locate?_of_locate (read : ofText text = .ok address)
    (located : locate document text = .ok parts) : address.locate? document = some parts := by
  rw [locate, read] at located
  simp only [bind, Except.bind] at located
  split at located
  · cases located
  · split at located
    · rename_i found
      cases located
      exact found
    · cases located

/-- In a document with string keys, where an address matches, it means the way to the first match
and the walk finds the node there. Where it does not match, the walk along the way that the address
means finds nothing, or fails, which is when the way counts past the start of a list. -/
theorem lookup_agrees_iff (named : document.isNamed = true) (read : ofText text = .ok address)
    (located : locate document text = .ok parts) :
    (∀ way found, (find address document).head? = some (way, found) →
      parts = way ∧ document.lookup? parts = .ok (some found)) ∧
    (find address document = [] →
      (document.lookup? parts = .ok none ↔ ¬ document.OverrunsStart parts) ∧
      (document.lookup? parts = .error .outOfRange ↔ document.OverrunsStart parts)) := by
  have located := locate?_of_locate read located
  constructor
  · intro way found matched
    have means := locateBackwards_of_find matched []
    rw [List.append_nil] at means
    cases located.symm.trans means
    exact ⟨rfl, lookup?_of_find named (List.mem_of_mem_head? matched)⟩
  · intro unmatched
    have outcome := lookup?_of_locateBackwards named unmatched located
    have fails : document.lookup? parts = .error .outOfRange ↔ document.OverrunsStart parts := by
      rw [Node.lookup?_eq_error_iff, and_iff_right rfl]
    refine ⟨?_, fails⟩
    rw [← fails]
    rcases outcome with absent | failed
    · simp [absent]
    · simp [failed]

theorem lookup_agrees_iff_overrun :
    locate singleItem "$.x[-2]" = .ok [.name "x", .position (-2)] ∧
      find [.step (.names ["x"]), .step (.positions [-2])] singleItem = [] ∧
      singleItem.lookup? [.name "x", .position (-2)] = .error .outOfRange := by
  have read : ofText "$.x[-2]" = .ok [.step (.names ["x"]), .step (.positions [-2])] := by
    decide +kernel
  have located : locate singleItem "$.x[-2]" = .ok [.name "x", .position (-2)] := by
    decide +kernel
  have unmatched : find [.step (.names ["x"]), .step (.positions [-2])] singleItem = [] := rfl
  have agrees := lookup_agrees_iff (by decide) read located
  exact ⟨located, unmatched, (agrees.2 unmatched).2.mpr overrunsStart_singleItem⟩

end ApiReview
