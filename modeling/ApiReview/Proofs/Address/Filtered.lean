import ApiReview.Proofs.Address.Anchored

/-! Addresses of what stands behind a filter for parameters. Among the parameters that
pass, the first that goes on as the address does is meant. A value that is put at the
place, below the member that the address goes on with, leaves name and location of every
parameter alone, and so the address means the same place afterwards. -/

set_option autoImplicit false

namespace ApiReview.Address

open WrittenStep

variable {conditions : List Condition} {above below : List String} {first name text : String}
  {location? : Option String} {owner child node document value found : Node} {part : Part}
  {front back : List (Part × Node)} {way parts : List Part} {steps : List WrittenStep}

/-! ## Candidates -/

/-- Whether a candidate passes a filter and has the members that the address names behind it. -/
def isMeant (conditions : List Condition) (below : List String) (candidate : Part × Node) : Bool :=
  conditions.all (·.holds candidate.2) && (candidate.2.at? (below.map .name)).isSome

theorem head?_find_filter (conditions : List Condition) (below : List String) (owner : Node) :
    (find (.filter conditions :: below.map memberSelector) owner).head? =
      ((Selector.candidates owner).find? (isMeant conditions below)).bind fun candidate =>
        (candidate.2.at? (below.map .name)).map fun found =>
          (candidate.1 :: below.map .name, found) := by
  rw [find, Selector.select]
  induction Selector.candidates owner with
  | nil => rfl
  | cons candidate rest ih =>
      obtain ⟨part, child⟩ := candidate
      cases passes : conditions.all (·.holds child) with
      | false =>
          rw [List.filter_cons_of_neg (by simp [passes]), ih,
            List.find?_cons_of_neg (by simp [isMeant, passes])]
      | true =>
          have behind := find_members below child
          rw [List.filter_cons_of_pos (by simp [passes]), List.flatMap_cons]
          simp only [behind]
          cases reached : child.at? (below.map .name) with
          | none =>
              rw [List.find?_cons_of_neg (by simp [isMeant, reached]), ← ih]
              rfl
          | some found =>
              rw [List.find?_cons_of_pos (by simp [isMeant, passes, reached]), Option.bind_some,
                reached]
              rfl

theorem getElem?_numbered (items : List Node) (index : Nat) :
    (numbered items)[index]? = items[index]?.map fun item => (.position (.ofNat index), item) := by
  rw [numbered, List.getElem?_map, List.getElem?_zipIdx, Option.map_map, Nat.zero_add]
  rfl

/-- Another value for one candidate leaves the others as they are, in their places. -/
theorem candidates_withPart (named : owner.isNamed = true)
    (split : Selector.candidates owner = front ++ (part, child) :: back) (value : Node) :
    Selector.candidates (owner.withPart part value) = front ++ (part, value) :: back := by
  cases owner with
  | object members =>
      obtain ⟨before, rest, rfl, rfl, later⟩ := List.map_eq_append_iff.mp split
      obtain ⟨⟨key, held⟩, behind, rfl, here, rfl⟩ := List.map_eq_cons_iff.mp later
      cases here
      have distinct := Node.distinct_of_isNamed named
      obtain ⟨⟨name, rfl⟩, _⟩ := Node.isNamed_of_mem named
        (List.mem_append_right before List.mem_cons_self)
      have absent : Key.str name ∉ Members.keys before := by
        rw [Members.keys, List.map_append, List.map_cons] at distinct
        exact fun among => (List.nodup_append.mp distinct).2.2 _ among _ List.mem_cons_self rfl
      rw [Key.toPart, Node.withPart, Members.put_append_cons absent]
      simp [Selector.candidates, Key.toPart]
  | list items =>
      have here := getElem?_numbered items front.length
      have split : numbered items = front ++ (part, child) :: back := split
      rw [split, List.getElem?_append_right le_rfl, Nat.sub_self, List.getElem?_cons_zero] at here
      obtain ⟨item, _, shape⟩ := Option.map_eq_some_iff.mp here.symm
      cases shape
      have changed : front ++ (Part.position (.ofNat front.length), value) :: back =
          (numbered items).set front.length (.position (.ofNat front.length), value) := by
        rw [split, List.set_append_right _ _ le_rfl, Nat.sub_self, List.set_cons_zero]
      rw [changed]
      refine List.ext_getElem? fun index => ?_
      rw [Node.withPart, Selector.candidates, getElem?_numbered, List.getElem?_set,
        List.getElem?_set, getElem?_numbered]
      have count : (numbered items).length = items.length := by simp [numbered]
      by_cases same : front.length = index
      · subst same
        rw [if_pos rfl, if_pos rfl, count]
        split <;> rfl
      · rw [if_neg same, if_neg same]
  | _ => simp [Selector.candidates] at split

/-! ## Conditions -/

theorem walk_name (part : String) (node : Node) :
    Step.walk [.names [part]] node = (node.part? (.name part)).toList := by
  have selected := select_member part node
  rw [memberSelector, Selector.select] at selected
  rw [Step.walk, selected]
  cases node.part? (.name part) <;> rfl

/-- A condition on one member does not see what happens below another. -/
theorem holds_partIs_graft {member : String} (other : member ≠ first) (rest : List Part) :
    (partIs member text).holds (Node.graft value (.name first :: rest) node) =
      (partIs member text).holds node := by
  have different : Part.name member ≠ .name first := fun same => other (Part.name.inj same)
  simp only [Condition.holds, partIs, walk_name, Node.graft_cons,
    Node.part?_withPart_ne different]

/-- A filter for parameters looks at their name and location only. -/
theorem parameterConditions_graft (name : String) (location? : Option String)
    (noName : first ≠ "name") (noLocation : first ≠ "in") (rest : List Part) :
    (parameterConditions name location?).all
        (·.holds (Node.graft value (.name first :: rest) node)) =
      (parameterConditions name location?).all (·.holds node) := by
  cases asked : askedLocation? location? with
  | none =>
      simp only [parameterConditions, asked, Option.toList_none, List.map_nil, List.all_cons,
        List.all_nil, holds_partIs_graft (Ne.symm noName)]
  | some location =>
      simp only [parameterConditions, asked, Option.toList_some, List.map_cons, List.map_nil,
        List.all_cons, List.all_nil, holds_partIs_graft (Ne.symm noName),
        holds_partIs_graft (Ne.symm noLocation)]

theorem selector_not_crosses (step : WrittenStep) (node : Node) :
    step.selector.crosses node = false := by
  cases step with
  | parameter name location? =>
      rw [WrittenStep.selector, Selector.crosses]
      cases asked : askedLocation? location? <;>
        simp [parameterConditions, asked, Condition.crosses, partIs]
  | _ => rfl

theorem crosses_written (steps : List WrittenStep) (node : Node) :
    crosses (steps.map WrittenStep.selector) node = false := by
  induction steps generalizing node with
  | nil => rfl
  | cons step steps ih =>
      rw [List.map_cons, crosses, selector_not_crosses, Bool.false_or, List.any_eq_false]
      intro candidate _
      exact Bool.eq_false_iff.mp (ih candidate.2)

/-! ## Places -/

theorem head?_find_members (above : List String) (rest : Address) (document : Node) :
    (find (above.map memberSelector ++ rest) document).head? =
      (document.at? (above.map .name)).bind fun owner =>
        (find rest owner).head?.map fun reached => (above.map .name ++ reached.1, reached.2) := by
  rw [find_append, find_members]
  cases document.at? (above.map .name) with
  | none => rfl
  | some owner => simp

/-- What is located behind a filter is matched by the address up to some member, and the members
behind that are missing. -/
theorem find_of_locateBackwards {address : Address} (missing : List Part)
    (located : locateBackwards document
      (address ++ .filter conditions :: below.map memberSelector).reverse missing = some way) :
    ∃ matched rest found parts, below = matched ++ rest ∧
      (find (address ++ .filter conditions :: matched.map memberSelector) document).head? =
        some (parts, found) ∧ way = parts ++ rest.map .name ++ missing := by
  induction below using List.reverseRecOn generalizing missing with
  | nil =>
      rw [List.map_nil, List.reverse_append, List.reverse_singleton, List.singleton_append,
        locateBackwards, List.reverse_reverse] at located
      split at located
      · rename_i parts found matched
        refine ⟨[], [], found, parts, rfl, matched, ?_⟩
        rw [List.map_nil, List.append_nil]
        exact (Option.some.inj located).symm
      · cases located
  | append_singleton below last ih =>
      have whole : address ++ .filter conditions :: (below ++ [last]).map memberSelector =
          (address ++ .filter conditions :: below.map memberSelector) ++ [memberSelector last] := by
        simp
      rw [whole, List.reverse_append, List.reverse_singleton, List.singleton_append,
        locateBackwards, List.reverse_reverse] at located
      split at located
      · rename_i parts found matched
        refine ⟨below ++ [last], [], found, parts, (List.append_nil _).symm, ?_, ?_⟩
        · rw [whole]
          exact matched
        · rw [List.map_nil, List.append_nil]
          exact (Option.some.inj located).symm
      · obtain ⟨matched, rest, found, parts, rfl, reached, shape⟩ := ih (.name last :: missing)
          located
        refine ⟨matched, rest ++ [last], found, parts, (List.append_assoc ..), reached, ?_⟩
        rw [shape]
        simp

/-- The first parameter that is meant stays the first when a value is put below it. -/
theorem find?_candidates_graft {matched missing rest : List String} (named : owner.isNamed = true)
    (noName : first ≠ "name") (noLocation : first ≠ "in")
    (further : first :: rest = matched ++ missing)
    (chosen : (Selector.candidates owner).find? (isMeant (parameterConditions name location?)
      matched) = some (part, child))
    (opened : child.isOpen ((first :: rest).map .name) = true) (value : Node) :
    (Selector.candidates (owner.withPart part (Node.graft value ((first :: rest).map .name)
        child))).find? (isMeant (parameterConditions name location?) (first :: rest)) =
      some (part, Node.graft value ((first :: rest).map .name) child) := by
  obtain ⟨meant, before, after, split, others⟩ := List.find?_eq_some_iff_append.mp chosen
  rw [isMeant, Bool.and_eq_true] at meant
  rw [candidates_withPart named split]
  refine List.find?_eq_some_iff_append.mpr ⟨?_, before, after, rfl, fun candidate among => ?_⟩
  · rw [isMeant, Node.at?_graft_self opened, List.map_cons,
      parameterConditions_graft name location? noName noLocation, meant.1]
    rfl
  · -- One in front that went on to the end of the address would have been chosen before.
    have passedOver := others candidate among
    rw [Bool.not_eq_true', isMeant, Bool.and_eq_false_iff] at passedOver ⊢
    refine passedOver.imp_right fun short => ?_
    rw [Option.isSome_eq_false_iff, Option.isNone_iff_eq_none] at short
    rw [further, List.map_append, Node.at?_append, short]
    rfl

/-- A value that is put where an address behind a filter leads leaves it leading there. -/
theorem locate_filtered_again {rest : List String} (named : document.isNamed = true)
    (read : ofText text = .ok (above.map memberSelector ++
      .filter (parameterConditions name location?) :: (first :: rest).map memberSelector))
    (noName : first ≠ "name") (noLocation : first ≠ "in")
    (located : locate document text = .ok way) (opened : document.isOpen way = true)
    (value : Node) :
    locate (Node.graft value way document) text = .ok way ∧
      ∃ anchor base, document.at? anchor = some base ∧
        way = anchor ++ (first :: rest).map .name := by
  have steps : above.map memberSelector ++
      .filter (parameterConditions name location?) :: (first :: rest).map memberSelector =
        (above.map WrittenStep.quoted ++ .parameter name location? ::
          (first :: rest).map WrittenStep.quoted).map WrittenStep.selector := by
    have quoted : ∀ names : List String, names.map memberSelector =
        (names.map WrittenStep.quoted).map WrittenStep.selector := by
      intro names
      rw [List.map_map]
      rfl
    rw [quoted above, quoted (first :: rest), List.map_append]
    rfl
  have uncrossed : ∀ node, crosses (above.map memberSelector ++
      .filter (parameterConditions name location?) :: (first :: rest).map memberSelector) node =
        false := by
    intro node
    rw [steps]
    exact crosses_written _ node
  simp only [locate, read, bind, Except.bind, uncrossed, Bool.false_eq_true, if_false] at located ⊢
  split at located
  · rename_i parts first_match
    cases located
    obtain ⟨matched, missing, found, parts, further, reached, rfl⟩ :=
      find_of_locateBackwards [] first_match
    rw [head?_find_members] at reached
    obtain ⟨owner, owned, reached⟩ := Option.bind_eq_some_iff.mp reached
    obtain ⟨⟨behind, _⟩, inside, shape⟩ := Option.map_eq_some_iff.mp reached
    cases shape
    rw [head?_find_filter] at inside
    obtain ⟨⟨part, child⟩, chosen, ended⟩ := Option.bind_eq_some_iff.mp inside
    obtain ⟨_, _, shape⟩ := Option.map_eq_some_iff.mp ended
    cases shape
    have way : above.map Part.name ++ part :: matched.map .name ++ missing.map .name ++ [] =
        above.map .name ++ part :: (first :: rest).map .name := by
      rw [further]
      simp
    have ownerNamed := Node.isNamed_of_at? named owned
    have stepped := part?_of_candidate ownerNamed (List.mem_of_find?_eq_some chosen)
    rw [way] at opened ⊢
    rw [Node.isOpen_append owned, Node.isOpen, stepped, Option.getD_some, Bool.and_eq_true] at opened
    refine ⟨?_, above.map .name ++ [part], child, ?_, ?_⟩
    · have stays := find?_candidates_graft ownerNamed noName noLocation further chosen opened.2
        value
      have matched : (find (above.map memberSelector ++
          .filter (parameterConditions name location?) :: (first :: rest).map memberSelector)
          (Node.graft value (above.map .name ++ part :: (first :: rest).map .name) document)).head? =
            some (above.map .name ++ part :: (first :: rest).map .name, value) := by
        rw [head?_find_members, Node.at?_graft_append owned, Option.bind_some, Node.graft_cons,
          stepped, Option.getD_some, head?_find_filter, stays, Option.bind_some,
          Node.at?_graft_self opened.2]
        rfl
      rw [locate?, locateBackwards_of_find matched, List.append_nil]
    · rw [Node.at?_append_of_some owned, Node.at?_singleton, stepped]
    · simp
  · cases located

end ApiReview.Address
