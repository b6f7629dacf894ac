import ApiReview.Proofs.Node.Json

/-! Saying the same is mutual. Numbers are compared by value and moments by instant,
in either order; of two objects with distinct names, each of as many members as the
other, the members of one side can all be found on the other side. -/

set_option autoImplicit false

namespace ApiReview

/-! ## Scalars -/

theorem Binary64.compareScaled_symm {left leftExponent right rightExponent : Int}
    (same : compareScaled left leftExponent right rightExponent = .eq) :
    compareScaled right rightExponent left leftExponent = .eq := by
  rw [compareScaled, compare_eq_iff_eq] at same ⊢
  rw [min_comm]
  exact same.symm

theorem Binary64.Value.compare?_symm {left right : Value} (same : left.compare? right = some .eq) :
    right.compare? left = some .eq := by
  cases left with
  | undefined => cases same
  | infinite negative =>
      cases right with
      | undefined => cases same
      | infinite other => cases negative <;> cases other <;> first | rfl | cases same
      | finite _ _ _ => cases negative <;> cases same
  | finite negative mantissa exponent =>
      cases right with
      | undefined => cases same
      | infinite other => cases other <;> cases same
      | finite _ _ _ => exact congrArg some (compareScaled_symm (Option.some.inj same))

theorem Quantity.same_symm {left right : Quantity} (same : left.same right = true) :
    right.same left = true := by
  rw [Quantity.same, beq_iff_eq] at same ⊢
  exact Binary64.Value.compare?_symm same

theorem Moment.same_symm {left right : Moment} (same : left.same right = true) :
    right.same left = true := by
  cases left with
  | date day =>
      cases right with
      | date other => exact beq_iff_eq.mpr (beq_iff_eq.mp same).symm
      | time other clock shift? => cases same
  | time day clock shift? =>
      cases right with
      | date other => cases shift? <;> cases same
      | time other otherClock otherShift? =>
          cases shift? with
          | none =>
              cases otherShift? with
              | none =>
                  simp only [Moment.same, Bool.and_eq_true, beq_iff_eq] at same ⊢
                  exact ⟨same.1.symm, same.2.symm⟩
              | some otherShift => cases same
          | some shift =>
              cases otherShift? with
              | none => cases same
              | some otherShift => exact beq_iff_eq.mpr (beq_iff_eq.mp same).symm

namespace Node

theorem sameScalar_symm {left right : Node} (same : left.sameScalar right = true) :
    right.sameScalar left = true := by
  cases left <;> cases right
  all_goals first
    | rfl
    | exact Quantity.same_symm same
    | exact Moment.same_symm same
    | exact beq_iff_eq.mpr (beq_iff_eq.mp same).symm
    | cases same

/-! ## Documents -/

variable {members others rest : Members} {key : Key} {value : Node}

theorem sameMembers_iff : sameMembers rest members = true ↔ ∀ key value, (key, value) ∈ rest →
    ∃ other, Members.findSame? members key = some other ∧ value.same other = true := by
  induction rest with
  | nil => simp [sameMembers]
  | cons first rest ih =>
      obtain ⟨head, held⟩ := first
      rw [sameMembers, Bool.and_eq_true, ih]
      constructor
      · rintro ⟨here, later⟩ key value among
        rcases List.mem_cons.mp among with same | among
        · cases same
          split at here
          · rename_i other found
            exact ⟨other, found, here⟩
          · cases here
        · exact later key value among
      · intro all
        obtain ⟨other, found, same⟩ := all head held List.mem_cons_self
        rw [found]
        exact ⟨same, fun key value among => all key value (List.mem_cons_of_mem _ among)⟩

theorem mem_of_findSame? {name : String} (named : (Node.object members).isNamed = true)
    (found : Members.findSame? members (.str name) = some value) : (Key.str name, value) ∈ members := by
  obtain ⟨⟨key, held⟩, first, same⟩ := Option.map_eq_some_iff.mp found
  cases same
  have among := List.mem_of_find?_eq_some first
  have test := List.find?_some first
  obtain ⟨⟨other, rfl⟩, _⟩ := isNamed_of_mem named among
  have same : other = name := beq_iff_eq.mp test
  rwa [← same]

theorem findSame?_of_isNamed (named : (Node.object members).isNamed = true)
    (among : (key, value) ∈ members) : Members.findSame? members key = some value := by
  obtain ⟨⟨name, rfl⟩, _⟩ := isNamed_of_mem named among
  refine findSame?_of_mem (distinct_of_isNamed named) (fun other present => ?_) among
  obtain ⟨held, inside⟩ := Members.exists_mem_of_mem_keys present
  obtain ⟨⟨_, rfl⟩, _⟩ := isNamed_of_mem named inside
  rfl

/-- Where every key on one side is on the other, and there are as many, it is the other way round,
too. -/
theorem mem_keys_of_same (distinct : (Members.keys members).Nodup)
    (within : Members.keys members ⊆ Members.keys others) (size : members.length = others.length) :
    Members.keys others ⊆ Members.keys members := by
  have few : (Members.keys others).length ≤ (Members.keys members).length := by
    simp [Members.keys, size]
  exact (distinct.subperm within).perm_of_length_le few |>.symm.subset

theorem same_symm_of_scalar {left right : Node} (noItems : left.items? = none)
    (noMembers : left.members? = none) (same : left.same right = true) :
    right.same left = true := by
  cases left with
  | list items => cases noItems
  | object members => cases noMembers
  | _ =>
      cases right
      all_goals
        rw [Node.same] at same ⊢
        · exact sameScalar_symm same
        all_goals nofun

mutual

theorem same_symm : ∀ {left right : Node}, left.isNamed = true → right.isNamed = true →
    left.same right = true → right.same left = true
  | .list items, right, named, others, same => by
      cases right with
      | list rights => exact sameItems_symm named others same
      | _ => cases same
  | .object members, right, named, others, same => by
      cases right with
      | object rights =>
          rw [Node.same, Bool.and_eq_true, beq_iff_eq] at same ⊢
          obtain ⟨size, same⟩ := same
          have within : Members.keys members ⊆ Members.keys rights := by
            intro key present
            obtain ⟨value, among⟩ := Members.exists_mem_of_mem_keys present
            obtain ⟨⟨name, rfl⟩, _⟩ := isNamed_of_mem named among
            obtain ⟨other, found, _⟩ := sameMembers_iff.mp same _ _ among
            exact Members.mem_keys_of_mem (mem_of_findSame? others found)
          -- as many distinct names on the left, so that none on the right is without its own
          have back := mem_keys_of_same (distinct_of_isNamed named) within size
          have inner : haveNames members = true := by
            rw [isNamed, Bool.and_eq_true] at named
            exact named.2
          refine ⟨size.symm, sameMembers_iff.mpr fun key other among => ?_⟩
          obtain ⟨value, held⟩ := Members.exists_mem_of_mem_keys (back (Members.mem_keys_of_mem among))
          obtain ⟨found, there, alike⟩ := sameMembers_iff.mp same _ _ held
          rw [findSame?_of_isNamed others among] at there
          cases there
          exact ⟨value, findSame?_of_isNamed named held,
            sameMembers_symm inner held (isNamed_of_mem others among).2 alike⟩
      | _ => cases same
  | .null, _, _, _, same => same_symm_of_scalar rfl rfl same
  | .bool _, _, _, _, same => same_symm_of_scalar rfl rfl same
  | .int _, _, _, _, same => same_symm_of_scalar rfl rfl same
  | .float _, _, _, _, same => same_symm_of_scalar rfl rfl same
  | .str _, _, _, _, same => same_symm_of_scalar rfl rfl same
  | .time _, _, _, _, same => same_symm_of_scalar rfl rfl same

theorem sameItems_symm : ∀ {lefts rights : List Node}, areNamed lefts = true →
    areNamed rights = true → sameItems lefts rights = true → sameItems rights lefts = true
  | [], rights, _, _, same => by
      cases rights with
      | nil => rfl
      | cons right rights => cases same
  | left :: lefts, rights, named, others, same => by
      cases rights with
      | nil => cases same
      | cons right rights =>
          rw [areNamed, Bool.and_eq_true] at named others
          rw [sameItems, Bool.and_eq_true] at same
          rw [sameItems, same_symm named.1 others.1 same.1, sameItems_symm named.2 others.2 same.2]
          rfl

theorem sameMembers_symm : ∀ {members : Members}, haveNames members = true →
    ∀ {key : Key} {value other : Node}, (key, value) ∈ members → other.isNamed = true →
      value.same other = true → other.same value = true
  | (head, held) :: rest, named, key, value, other, among, isNamed, same => by
      rw [haveNames, Bool.and_eq_true, Bool.and_eq_true] at named
      rcases List.mem_cons.mp among with here | among
      · cases here
        exact same_symm named.1.2 isNamed same
      · exact sameMembers_symm named.2 among isNamed same

end

end Node

end ApiReview
