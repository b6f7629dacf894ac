import ApiReview.Proofs.Node.Members
import ApiReview.Proofs.Outcome
import ApiReview.Spec.Operation

/-! Which parameters an operation ends up with. A slot is a name and a textual
location; once a list declares a slot, no later declaration takes it away, it can
only be declared anew. -/

set_option autoImplicit false

namespace ApiReview

variable {spec : Node} {path name location : String} {method? : Option String}
  {parameters result : List Parameter} {parameter : Parameter} {items : List Node}
  {members : Members} {nameNode : Node}

def Parameter.isAt (name location : String) (parameter : Parameter) : Prop :=
  parameter.name = name ∧ parameter.location = .str location

theorem Node.same_str {node : Node} {text : String} (same : node.same (.str text) = true) :
    node = .str text := by
  cases node with
  | str other => simpa [Node.same, Node.sameScalar] using same
  | _ => simp [Node.same, Node.sameScalar, Node.quantity?] at same

theorem Node.str_same {node : Node} {text : String} (same : (Node.str text).same node = true) :
    node = .str text := by
  cases node with
  | str other =>
      have equal : text = other := by simpa [Node.same, Node.sameScalar] using same
      rw [equal]
  | _ => simp [Node.same, Node.sameScalar, Node.quantity?] at same

theorem Node.same_str_self (text : String) : (Node.str text).same (.str text) = true := by
  simp [Node.same, Node.sameScalar]

theorem Parameter.isAt_of_sameSlot {other : Parameter} (placed : parameter.isAt name location)
    (same : parameter.sameSlot other = true) : other.isAt name location := by
  rw [Parameter.sameSlot, Bool.and_eq_true, beq_iff_eq, placed.2] at same
  exact ⟨same.1.symm.trans placed.1, Node.str_same same.2⟩

theorem Parameter.sameSlot_of_isAt {other : Parameter} (placed : parameter.isAt name location)
    (another : other.isAt name location) : parameter.sameSlot other = true := by
  rw [Parameter.sameSlot, Bool.and_eq_true, beq_iff_eq, placed.2, another.2]
  exact ⟨placed.1.trans another.1.symm, Node.same_str_self location⟩

theorem mem_putParameter_self (parameters : List Parameter) (parameter : Parameter) :
    parameter ∈ putParameter parameters parameter := by
  rw [putParameter]
  split
  · rename_i present
    obtain ⟨old, among, same⟩ := List.any_eq_true.mp present
    exact List.mem_map.mpr ⟨old, among, if_pos same⟩
  · exact List.mem_append_right _ (List.mem_singleton.mpr rfl)

theorem isAt_putParameter (declared : ∃ old ∈ parameters, old.isAt name location)
    (parameter : Parameter) :
    ∃ found ∈ putParameter parameters parameter, found.isAt name location := by
  obtain ⟨old, among, placed⟩ := declared
  rw [putParameter]
  split
  · cases same : old.sameSlot parameter with
    | true =>
        refine ⟨parameter, List.mem_map.mpr ⟨old, among, if_pos same⟩, ?_⟩
        exact Parameter.isAt_of_sameSlot placed same
    | false =>
        exact ⟨old, List.mem_map.mpr ⟨old, among, if_neg (by simp [same])⟩, placed⟩
  · exact ⟨old, List.mem_append_left _ among, placed⟩

/-! ## Lists of declarations -/

/-- One declaration leaves the parameters alone or puts one parameter. -/
theorem addParameters_cons_ok {item : Node} {rest : List Node}
    (added : addParameters spec path method? parameters (item :: rest) = .ok result) :
    ∃ next, addParameters spec path method? next rest = .ok result ∧
      ((parameter? spec path method? item = .ok none ∧ next = parameters) ∨
        ∃ parameter, parameter? spec path method? item = .ok (some parameter) ∧
          next = putParameter parameters parameter) := by
  rw [addParameters, List.foldlM_cons] at added
  obtain ⟨next, stepped, continued⟩ := bind_ok added
  refine ⟨next, continued, ?_⟩
  obtain ⟨declared?, read, stepped⟩ := bind_ok stepped
  cases declared? with
  | none => exact .inl ⟨read, (Except.ok.inj stepped).symm⟩
  | some parameter =>
      refine .inr ⟨parameter, read, ?_⟩
      cases place : parameter.location <;> simp only [place] at stepped
      case list => cases stepped
      case object => cases stepped
      all_goals exact (Except.ok.inj stepped).symm

theorem isAt_addParameters (added : addParameters spec path method? parameters items = .ok result)
    (declared : ∃ old ∈ parameters, old.isAt name location) :
    ∃ found ∈ result, found.isAt name location := by
  induction items generalizing parameters with
  | nil =>
      cases added
      exact declared
  | cons item rest ih =>
      obtain ⟨next, continued, ⟨_, rfl⟩ | ⟨parameter, _, rfl⟩⟩ := addParameters_cons_ok added
      · exact ih continued declared
      · exact ih continued (isAt_putParameter declared parameter)

/-- Every declaration of a list leaves its slot declared. -/
theorem isAt_of_declaration (added : addParameters spec path method? parameters items = .ok result)
    {item : Node} (among : item ∈ items)
    (read : parameter? spec path method? item = .ok (some parameter))
    (placed : parameter.isAt name location) : ∃ found ∈ result, found.isAt name location := by
  induction items generalizing parameters with
  | nil => cases among
  | cons first rest ih =>
      obtain ⟨next, continued, step⟩ := addParameters_cons_ok added
      rcases List.mem_cons.mp among with rfl | among
      · rcases step with ⟨nothing, _⟩ | ⟨declared, again, rfl⟩
        · rw [read] at nothing
          cases nothing
        · rw [read] at again
          cases again
          exact isAt_addParameters continued ⟨parameter, mem_putParameter_self _ _, placed⟩
      · exact ih continued among

theorem mem_putParameter {other : Parameter} (among : other ∈ putParameter parameters parameter) :
    other = parameter ∨ other ∈ parameters := by
  rw [putParameter] at among
  split at among
  · obtain ⟨old, inside, shape⟩ := List.mem_map.mp among
    split at shape
    · exact .inl shape.symm
    · exact .inr (shape ▸ inside)
  · rcases List.mem_append.mp among with inside | here
    · exact .inr inside
    · exact .inl (List.mem_singleton.mp here)

/-- Every parameter is read from an item or was there before. -/
theorem mem_addParameters (added : addParameters spec path method? parameters items = .ok result)
    (among : parameter ∈ result) :
    parameter ∈ parameters ∨
      ∃ item ∈ items, parameter? spec path method? item = .ok (some parameter) := by
  induction items generalizing parameters with
  | nil =>
      cases added
      exact .inl among
  | cons item rest ih =>
      obtain ⟨next, continued, step⟩ := addParameters_cons_ok added
      rcases ih continued with inside | ⟨later, inside, read⟩
      · rcases step with ⟨_, rfl⟩ | ⟨declared, read, rfl⟩
        · exact .inl inside
        · rcases mem_putParameter inside with rfl | inside
          · exact .inr ⟨item, List.mem_cons_self, read⟩
          · exact .inl inside
      · exact .inr ⟨later, List.mem_cons_of_mem _ inside, read⟩

/-! ## The declaration that counts -/

/-- A parameter that is the only one in its slot. -/
structure OnlyAt (name location : String) (parameters : List Parameter) (parameter : Parameter) :
    Prop where
  among : parameter ∈ parameters
  placed : parameter.isAt name location
  only : ∀ other ∈ parameters, other.isAt name location → other = parameter

theorem onlyAt_putParameter_self (placed : parameter.isAt name location)
    (parameters : List Parameter) :
    OnlyAt name location (putParameter parameters parameter) parameter where
  among := mem_putParameter_self parameters parameter
  placed := placed
  only other among another := by
    rw [putParameter] at among
    split at among
    · obtain ⟨old, inside, shape⟩ := List.mem_map.mp among
      split at shape
      · exact shape.symm
      · rename_i different
        rw [← shape] at another
        exact absurd (Parameter.sameSlot_of_isAt another placed) different
    · rename_i absent
      rcases List.mem_append.mp among with inside | here
      · have same : other.sameSlot parameter = true := Parameter.sameSlot_of_isAt another placed
        exact absurd (List.any_eq_true.mpr ⟨other, inside, same⟩) absent
      · exact List.mem_singleton.mp here

/-- A declaration in another slot brings nothing into a slot and takes nothing out of it. -/
theorem mem_putParameter_of_not_isAt {other : Parameter} (elsewhere : ¬ parameter.isAt name location)
    (placed : other.isAt name location) :
    other ∈ putParameter parameters parameter ↔ other ∈ parameters := by
  have kept : other.sameSlot parameter = false := by
    cases same : other.sameSlot parameter with
    | true => exact absurd (Parameter.isAt_of_sameSlot placed same) elsewhere
    | false => rfl
  have different : other ≠ parameter := fun same => elsewhere (same ▸ placed)
  rw [putParameter]
  split
  · constructor
    · intro among
      obtain ⟨old, inside, shape⟩ := List.mem_map.mp among
      split at shape
      · exact absurd shape.symm different
      · exact shape ▸ inside
    · exact fun inside => List.mem_map.mpr ⟨other, inside, if_neg (by simp [kept])⟩
  · rw [List.mem_append, List.mem_singleton]
    exact ⟨fun either => either.resolve_right different, .inl⟩

theorem mem_addParameters_of_not_isAt {other : Parameter}
    (added : addParameters spec path method? parameters items = .ok result)
    (elsewhere : ∀ item ∈ items, ∀ declared,
      parameter? spec path method? item = .ok (some declared) → ¬ declared.isAt name location)
    (placed : other.isAt name location) : other ∈ result ↔ other ∈ parameters := by
  induction items generalizing parameters with
  | nil =>
      cases added
      rfl
  | cons item rest ih =>
      have later := fun item among => elsewhere item (List.mem_cons_of_mem _ among)
      obtain ⟨next, continued, ⟨_, rfl⟩ | ⟨declared, read, rfl⟩⟩ := addParameters_cons_ok added
      · exact ih continued later
      · rw [ih continued later]
        exact mem_putParameter_of_not_isAt (elsewhere item List.mem_cons_self declared read) placed

theorem OnlyAt.addParameters (alone : OnlyAt name location parameters parameter)
    (added : addParameters spec path method? parameters items = .ok result)
    (elsewhere : ∀ item ∈ items, ∀ declared,
      parameter? spec path method? item = .ok (some declared) → ¬ declared.isAt name location) :
    OnlyAt name location result parameter where
  among := (mem_addParameters_of_not_isAt added elsewhere alone.placed).mpr alone.among
  placed := alone.placed
  only other among another :=
    alone.only other ((mem_addParameters_of_not_isAt added elsewhere another).mp among) another

/-- The last declaration of a slot is the one that counts. -/
theorem onlyAt_of_last {front back : List Node} {item : Node}
    (added : addParameters spec path method? parameters (front ++ item :: back) = .ok result)
    (read : parameter? spec path method? item = .ok (some parameter))
    (placed : parameter.isAt name location)
    (elsewhere : ∀ later ∈ back, ∀ declared,
      parameter? spec path method? later = .ok (some declared) → ¬ declared.isAt name location) :
    OnlyAt name location result parameter := by
  induction front generalizing parameters with
  | nil =>
      obtain ⟨next, continued, ⟨nothing, _⟩ | ⟨declared, again, rfl⟩⟩ := addParameters_cons_ok added
      · rw [read] at nothing
        cases nothing
      · rw [read] at again
        cases again
        exact (onlyAt_putParameter_self placed parameters).addParameters continued elsewhere
  | cons first rest ih =>
      obtain ⟨next, continued, _⟩ := addParameters_cons_ok added
      exact ih continued

/-! ## Declarations of an operation -/

/-- What an item that is read as a parameter holds. -/
theorem parameter?_ok {item : Node}
    (read : parameter? spec path method? item = .ok (some parameter)) :
    ∃ members nameNode, item = .object members ∧
      resolve? spec referenceLimit item = .ok (some (.object parameter.definition)) ∧
      Members.get? parameter.definition "name" = some nameNode ∧
      parameter.name = nameNode.display ∧
      parameter.location = (Members.get? parameter.definition "in").getD (.str "query") ∧
      parameter.address = (((Members.get? members "$ref").bind Node.text?).bind fun reference =>
        (Address.ofReference reference).toOption).getD
          (Address.ofParameter path method? nameNode.display (locationText? parameter.location)) := by
  cases item with
  | object members =>
      rw [parameter?] at read
      obtain ⟨target?, resolved, read⟩ := bind_ok read
      cases defined : target?.bind Node.members? with
      | none =>
          simp only [defined] at read
          cases read
      | some definition =>
          simp only [defined] at read
          obtain ⟨target, rfl, shape⟩ := Option.bind_eq_some_iff.mp defined
          cases target with
          | object found =>
              cases shape
              cases named : Members.get? definition "name" with
              | none =>
                  simp only [named] at read
                  cases read
              | some nameNode =>
                  simp only [named] at read
                  cases read
                  exact ⟨members, nameNode, rfl, resolved, named, rfl, rfl, rfl⟩
          | _ => cases shape
  | _ => cases read

/-- An item whose definition has a name is read as a parameter. -/
theorem parameter?_of_resolve {definition : Members}
    (resolved : resolve? spec referenceLimit (.object members) = .ok (some (.object definition)))
    (named : Members.get? definition "name" = some nameNode) :
    ∃ parameter, parameter? spec path method? (.object members) = .ok (some parameter) ∧
      parameter.name = nameNode.display ∧
      parameter.location = (Members.get? definition "in").getD (.str "query") ∧
      parameter.definition = definition := by
  simp only [parameter?, resolved, bind, Except.bind, Option.bind_some, Node.members?, named]
  exact ⟨_, rfl, rfl, rfl, rfl⟩

/-- An item that is no reference declares the parameter that it describes. -/
theorem parameter?_inline (inline : Members.get? members "$ref" = none)
    (named : Members.get? members "name" = some nameNode)
    (located : Members.get? members "in" = some (.str location)) :
    ∃ parameter, parameter? spec path method? (.object members) = .ok (some parameter) ∧
      parameter.isAt nameNode.display location := by
  have resolved : resolve? spec referenceLimit (.object members) = .ok (some (.object members)) := by
    have unreferred : (Node.object members).get? "$ref" = none := inline
    rw [referenceLimit, resolve?, unreferred]
  obtain ⟨parameter, read, sameName, place, _⟩ := parameter?_of_resolve resolved named
  rw [located, Option.getD_some] at place
  exact ⟨parameter, read, sameName, place⟩

/-- An item of an operation's own list that is no reference is among the operation's parameters,
by its name and location. -/
theorem isAt_parametersOf {pathItem operation : Members} {method : String}
    (read : parametersOf spec path pathItem method operation = .ok result)
    (listed : Members.get? operation "parameters" = some (.list items))
    (among : .object members ∈ items) (inline : Members.get? members "$ref" = none)
    (named : Members.get? members "name" = some nameNode)
    (located : Members.get? members "in" = some (.str location)) :
    ∃ found ∈ result, found.isAt nameNode.display location := by
  obtain ⟨sharedItems, _, read⟩ := bind_ok read
  obtain ⟨shared, _, read⟩ := bind_ok read
  obtain ⟨ownItems, own, added⟩ := bind_ok read
  have filled : (Node.list items).isFilled = true := by
    rw [Node.isFilled, List.isEmpty_eq_false_iff.mpr (List.ne_nil_of_mem among)]
    rfl
  rw [parameterItems, listed] at own
  simp only [filled, if_true, Node.elements, Except.ok.injEq] at own
  subst own
  obtain ⟨parameter, declared, placed⟩ := parameter?_inline inline named located
  exact isAt_of_declaration added among declared placed

end ApiReview
