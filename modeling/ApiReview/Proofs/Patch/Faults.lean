import ApiReview.Proofs.Patch.Lookup

/-! Where a change stops with a fault, which nobody records, and not with a refusal.
An edit faults only at a list, when the token there is a number with too many
digits; a plan faults when its address cannot be followed or counts past the start
of a list. -/

set_option autoImplicit false

namespace ApiReview

variable {document node child : Node} {shape : Shape Node} {token : String}
  {path : List String} {edit : Edit} {change : Change} {parts done rest : List Part}
  {root part : Part} {fault : Fault}

/-! ## Edits -/

/-- A token does not say a position, for it has too many digits, and stands where a list is. -/
def Shape.Overflows (shape : Shape Node) (token : String) : Prop :=
  ∃ items, shape = .list items ∧ listPosition token = .error (.fault .badValue)

/-- One of the tokens on a way through a document has too many digits for a position. -/
def Node.Overflows (document : Node) (path : List String) : Prop :=
  ∃ front token rest items, path = front ++ token :: rest ∧
    document.partAt front = .ok (.list items) ∧ listPosition token = .error (.fault .badValue)

/-- An edit of a part faults only by the position that it needs. -/
def FaultsAtPosition {Value : Type} (edit : String → Shape Node → Except EditError Value) : Prop :=
  ∀ token shape fault, edit token shape = .error (.fault fault) ↔
    fault = .badValue ∧ shape.Overflows token

theorem listPosition_fault (failed : listPosition token = .error (.fault fault)) :
    fault = .badValue := by
  rw [listPosition] at failed
  repeat' split at failed
  all_goals cases failed
  rfl

theorem listPosition_dash : listPosition "-" = .error .conflict := by decide

/-- What is done with a position that was read does not fault. -/
theorem position_fault_iff {Value : Type} {items : List Node}
    {continuation : Nat → Except EditError Value}
    (quiet : ∀ position fault, continuation position ≠ .error (.fault fault)) :
    (listPosition token >>= continuation) = .error (.fault fault) ↔
      fault = .badValue ∧ (Shape.list items).Overflows token := by
  rw [bind_eq_error_iff]
  constructor
  · rintro (failed | ⟨position, _, failed⟩)
    · cases listPosition_fault failed
      exact ⟨rfl, items, rfl, failed⟩
    · exact absurd failed (quiet position fault)
  · rintro ⟨rfl, _, _, failed⟩
    exact .inl failed

theorem not_overflows_object {members : List (Key × Node)} :
    ¬ (Shape.object members).Overflows token := by
  rintro ⟨items, impossible, _⟩
  cases impossible

theorem not_overflows_scalar {value : Node} : ¬ (Shape.scalar value).Overflows token := by
  rintro ⟨items, impossible, _⟩
  cases impossible

theorem faultsAtPosition_child : FaultsAtPosition (@Shape.child Node) := by
  intro token shape fault
  cases shape with
  | list items =>
      refine position_fault_iff fun position fault failed => ?_
      split at failed <;> cases failed
  | object members =>
      rw [Shape.child]
      split <;> simp [not_overflows_object]
  | scalar value => simp [Shape.child, not_overflows_scalar]

theorem faultsAtPosition_add (value : Node) : FaultsAtPosition (Shape.add value) := by
  intro token shape fault
  cases shape with
  | list items =>
      rw [Shape.add]
      split
      · rename_i dash
        have clear : ¬ (Shape.list items).Overflows token := by
          rintro ⟨_, _, failed⟩
          rw [dash, listPosition_dash] at failed
          cases failed
        simp [clear]
      · refine position_fault_iff fun position fault failed => ?_
        split at failed <;> cases failed
  | object members => simp [Shape.add, not_overflows_object]
  | scalar value => simp [Shape.add, not_overflows_scalar]

theorem faultsAtPosition_withChild (value : Node) : FaultsAtPosition (Shape.withChild value) := by
  intro token shape fault
  cases shape with
  | list items =>
      refine position_fault_iff fun position fault failed => ?_
      split at failed <;> cases failed
  | object members =>
      rw [Shape.withChild]
      split <;> simp [not_overflows_object]
  | scalar value => simp [Shape.withChild, not_overflows_scalar]

theorem faultsAtPosition_replace (value : Node) : FaultsAtPosition (Shape.replace value) := by
  intro token shape fault
  rw [Shape.replace]
  split
  · rename_i dash
    have clear : ¬ shape.Overflows token := by
      rintro ⟨_, _, failed⟩
      rw [dash, listPosition_dash] at failed
      cases failed
    simp [clear]
  · exact faultsAtPosition_withChild value token shape fault

theorem faultsAtPosition_remove : FaultsAtPosition (@Shape.remove Node) := by
  intro token shape fault
  cases shape with
  | list items =>
      refine position_fault_iff fun position fault failed => ?_
      split at failed <;> cases failed
  | object members =>
      rw [Shape.remove]
      split <;> simp [not_overflows_object]
  | scalar value => simp [Shape.remove, not_overflows_scalar]

theorem Node.shape_eq_list {items : List Node} :
    node.shape = .list items ↔ node = .list items := by
  cases node <;> simp [Node.shape]

/-- A way overflows at its first token, or behind it. -/
theorem Node.overflows_cons_iff : node.Overflows (token :: path) ↔
    node.shape.Overflows token ∨
      ∃ child, node.shape.child token = .ok child ∧ child.Overflows path := by
  constructor
  · rintro ⟨front, last, rest, items, split, reached, failed⟩
    cases front with
    | nil =>
        cases split
        cases reached
        exact .inl ⟨items, rfl, failed⟩
    | cons first front =>
        cases split
        obtain ⟨child, stepped, reached⟩ := bind_ok reached
        exact .inr ⟨child, stepped, front, last, rest, items, rfl, reached, failed⟩
  · rintro (⟨items, shape, failed⟩ | ⟨child, stepped, front, last, rest, items, rfl, reached, failed⟩)
    · exact ⟨[], token, path, items, rfl, congrArg Except.ok (Node.shape_eq_list.mp shape), failed⟩
    · refine ⟨token :: front, last, rest, items, rfl, ?_, failed⟩
      rw [Node.partAt, stepped]
      exact reached

theorem Node.not_overflows_nil : ¬ node.Overflows [] := by
  rintro ⟨front, token, rest, items, impossible, _⟩
  cases front <;> cases impossible

theorem Node.partAt_fault_iff :
    node.partAt path = .error (.fault fault) ↔ fault = .badValue ∧ node.Overflows path := by
  induction path generalizing node with
  | nil => simp [Node.partAt, Node.not_overflows_nil]
  | cons token path ih =>
      rw [Node.partAt, bind_eq_error_iff, faultsAtPosition_child token, Node.overflows_cons_iff,
        and_or_left]
      simp only [ih, exists_and_left, and_left_comm]

theorem Node.editAt_fault_iff {edit : String → Shape Node → Except EditError (Shape Node)}
    (faults : FaultsAtPosition edit) :
    node.editAt edit path = .error (.fault fault) ↔ fault = .badValue ∧ node.Overflows path := by
  induction path generalizing node with
  | nil => simp [Node.editAt, Node.not_overflows_nil]
  | cons token path ih =>
      cases path with
      | nil =>
          rw [Node.editAt, bind_eq_error_iff, faults token, Node.overflows_cons_iff]
          simp [Node.not_overflows_nil]
      | cons next rest =>
          rw [Node.editAt, bind_eq_error_iff, faultsAtPosition_child token,
            Node.overflows_cons_iff, and_or_left]
          refine or_congr_right ?_
          constructor
          · rintro ⟨child, stepped, failed⟩
            rcases bind_eq_error_iff.mp failed with failed | ⟨changed, _, failed⟩
            · obtain ⟨rfl, overflows⟩ := ih.mp failed
              exact ⟨rfl, child, stepped, overflows⟩
            · rcases bind_eq_error_iff.mp failed with failed | ⟨_, _, failed⟩
              · -- The token was read on the way down, so that it cannot fail on the way back.
                have overflows := (faultsAtPosition_withChild changed token _ _).mp failed
                rw [(faultsAtPosition_child token _ _).mpr overflows] at stepped
                cases stepped
              · cases failed
          · rintro ⟨rfl, child, stepped, overflows⟩
            exact ⟨child, stepped, bind_eq_error_iff.mpr (.inl (ih.mpr ⟨rfl, overflows⟩))⟩

theorem Node.replaceAt_fault_iff {value : Node} :
    Node.replaceAt value path node = .error (.fault fault) ↔
      fault = .badValue ∧ node.Overflows path := by
  cases path with
  | nil => simp [Node.replaceAt, Node.not_overflows_nil]
  | cons token path => exact Node.editAt_fault_iff (faultsAtPosition_replace value)

/-- The tokens of the way that an edit goes. -/
def Edit.tokens : Edit → List String
  | .add path _ => path
  | .replace path _ => path
  | .remove path => path
  | .renameKey path _ _ => path

theorem Edit.apply_fault_iff :
    edit.apply document = .error (.fault fault) ↔
      fault = .badValue ∧ document.Overflows edit.tokens := by
  cases edit with
  | add path value =>
      cases path with
      | nil => simp [Edit.apply, Edit.tokens, Node.not_overflows_nil]
      | cons token path => exact Node.editAt_fault_iff (faultsAtPosition_add value)
  | replace path value => exact Node.replaceAt_fault_iff
  | remove path => exact Node.editAt_fault_iff faultsAtPosition_remove
  | renameKey path old new =>
      rw [Edit.apply, Edit.tokens, bind_eq_error_iff, Node.partAt_fault_iff]
      refine or_iff_left ?_
      rintro ⟨part, reached, failed⟩
      rcases bind_eq_error_iff.mp failed with failed | ⟨renamed, _, failed⟩
      · cases kept : part.shape <;> simp [kept, Shape.renameKey] at failed
      · rw [Node.partAt_fault_iff.mpr (Node.replaceAt_fault_iff.mp failed)] at reached
        cases reached

/-! ## Plans -/

theorem createParents_ne_fault (parts : List Part) :
    createParents root done parts ≠ .error (.fault fault) := by
  induction parts generalizing done with
  | nil => nofun
  | cons part rest ih =>
      cases rest with
      | nil => nofun
      | cons next rest =>
          intro failed
          rw [createParents] at failed
          · split at failed
            · cases failed
            · rcases bind_eq_error_iff.mp failed with failed | ⟨_, _, failed⟩
              · exact ih failed
              · cases failed
          · exact List.cons_ne_nil next rest

/-- Opening the way to a part faults only where walking along it does. -/
theorem ensureParents_fault (failed : ensureParents root node done parts = .error (.fault fault)) :
    node.lookup? parts = .error fault := by
  induction parts generalizing node done with
  | nil => cases failed
  | cons part rest ih =>
      cases rest with
      | nil => cases failed
      | cons next rest =>
          rw [ensureParents] at failed
          · split at failed
            · cases failed
            rcases bind_eq_error_iff.mp failed with failed | ⟨child?, stepped, failed⟩
            · obtain ⟨_, failed, same⟩ := mapError_eq_error_iff.mp failed
              cases same
              exact Node.lookup?_cons_of_error failed _
            · have stepped := mapError_ok stepped
              cases child? with
              | some child =>
                  rw [Node.lookup?_cons_of_some stepped]
                  cases child with
                  | object members => exact ih failed
                  | list items => exact ih failed
                  | _ => cases failed
              | none =>
                  cases object : node.isObject with
                  | true =>
                      simp only [object, if_true] at failed
                      rcases bind_eq_error_iff.mp failed with failed | ⟨_, _, failed⟩
                      · exact absurd failed (createParents_ne_fault _)
                      · cases failed
                  | false =>
                      simp only [object, Bool.false_eq_true, if_false] at failed
                      cases failed
          · exact List.cons_ne_nil next rest

theorem parentEdits_fault (failed : parentEdits document parts = .error (.fault fault)) :
    document.lookup? parts = .error fault := by
  cases parts with
  | nil => cases failed
  | cons root rest => exact ensureParents_fault failed

theorem lookupFor_fault_iff :
    lookupFor document parts = .error (.fault fault) ↔ document.lookup? parts = .error fault := by
  rw [lookupFor, mapError_eq_error_iff]
  simp

/-- Whether a change says all that its kind needs. -/
def Change.IsComplete (change : Change) : Prop :=
  change.kind = .renameKey → change.from?.isSome = true ∧ change.to?.isSome = true

/-- Whether a change walks into a fault on the way that its address means. A value to set is only
looked up after the way to it is opened, which can be refused before. -/
def Change.WalksInto (change : Change) (document : Node) (fault : Fault) : Prop :=
  ∃ parts, change.locate document = .ok parts ∧ document.lookup? parts = .error fault ∧
    (change.kind = .set → ∀ error, parentEdits document parts ≠ .error (.refused error))

theorem look_fault_iff {follow : Option Node → Except ChangeError (List Edit)}
    (quiet : ∀ found?, document.lookup? parts = .ok found? →
      follow found? ≠ .error (.fault fault)) :
    (lookupFor document parts >>= follow) = .error (.fault fault) ↔
      document.lookup? parts = .error fault := by
  rw [bind_eq_error_iff, lookupFor_fault_iff]
  refine or_iff_left ?_
  rintro ⟨found?, looked, failed⟩
  exact quiet found? (mapError_ok looked) failed

/-- When a plan faults that first follows the address and then looks up the way. -/
theorem follow_fault_iff {follow : List Part → Option Node → Except ChangeError (List Edit)}
    (notSet : change.kind ≠ .set)
    (quiet : ∀ parts found?, document.lookup? parts = .ok found? →
      follow parts found? ≠ .error (.fault fault)) :
    (change.locate document >>= fun parts => lookupFor document parts >>= follow parts) =
        .error (.fault fault) ↔
      change.locate document = .error (.fault fault) ∨ change.WalksInto document fault := by
  rw [bind_eq_error_iff]
  refine or_congr_right ?_
  simp only [look_fault_iff (quiet _), Change.WalksInto, notSet, false_implies, and_true]

theorem Change.planRename_fault_iff (kind : change.kind = .renameKey) :
    change.planRename document = .error (.fault fault) ↔ change.IsComplete ∧
      (change.locate document = .error (.fault fault) ∨ change.WalksInto document fault) := by
  have complete : change.IsComplete ↔ change.from?.isSome = true ∧ change.to?.isSome = true :=
    ⟨fun given => given kind, fun given _ => given⟩
  rw [complete, planRename]
  split
  · rename_i old new source target
    rw [source, target]
    simp only [Option.isSome_some, and_self, true_and]
    refine follow_fault_iff (by simp [kind]) fun parts found? _ failed => ?_
    repeat' split at failed
    all_goals cases failed
  · rename_i missing
    refine iff_of_false nofun fun ⟨⟨source, target⟩, _⟩ => ?_
    exact missing _ _ (Option.get_mem source) (Option.get_mem target)

theorem Change.isComplete_of_ne (other : change.kind ≠ .renameKey) : change.IsComplete :=
  fun kind => absurd kind other

theorem Change.planAdd_fault_iff (kind : change.kind = .add) :
    change.planAdd document = .error (.fault fault) ↔
      change.locate document = .error (.fault fault) ∨ change.WalksInto document fault := by
  refine follow_fault_iff (by simp [kind]) fun parts found? looked failed => ?_
  cases found? with
  | none =>
      rcases bind_eq_error_iff.mp failed with failed | ⟨_, _, failed⟩
      · rw [parentEdits_fault failed] at looked
        cases looked
      · cases failed
  | some found =>
      cases found with
      | list items =>
          simp only at failed
          split at failed <;> cases failed
      | _ => cases failed

theorem Change.planMerge_fault_iff (kind : change.kind = .merge) :
    change.planMerge document = .error (.fault fault) ↔
      change.locate document = .error (.fault fault) ∨ change.WalksInto document fault := by
  refine follow_fault_iff (by simp [kind]) fun parts found? looked failed => ?_
  cases found? with
  | none =>
      rcases bind_eq_error_iff.mp failed with failed | ⟨_, _, failed⟩
      · rw [parentEdits_fault failed] at looked
        cases looked
      · cases failed
  | some found =>
      cases found with
      | object members =>
          simp only at failed
          split at failed <;> cases failed
      | _ => cases failed

/-- A removal is content with an address that is refused. -/
theorem Change.planRemove_fault_iff (kind : change.kind = .remove) :
    change.planRemove document = .error (.fault fault) ↔
      change.locate document = .error (.fault fault) ∨ change.WalksInto document fault := by
  rw [planRemove, WalksInto]
  cases located : change.locate document with
  | error error =>
      cases error with
      | fault other => simp
      | refused error => simp
  | ok parts =>
      simp only [kind, reduceCtorEq, false_implies, and_true, Except.ok.injEq, false_or,
        exists_eq_left']
      refine look_fault_iff fun found? _ failed => ?_
      cases found? <;> cases failed

theorem Change.planSet_fault_iff (kind : change.kind = .set) :
    change.planSet document = .error (.fault fault) ↔
      change.locate document = .error (.fault fault) ∨ change.WalksInto document fault := by
  rw [planSet, bind_eq_error_iff]
  refine or_congr_right ?_
  constructor
  · rintro ⟨parts, located, failed⟩
    split at failed
    · cases failed
    · rename_i some_step
      rcases bind_eq_error_iff.mp failed with failed | ⟨edits, opened, failed⟩
      · refine ⟨parts, located, parentEdits_fault failed, fun _ error => ?_⟩
        rw [failed]
        nofun
      · have free : ∀ error, parentEdits document parts ≠ .error (.refused error) := by
          rw [opened]
          nofun
        refine ⟨parts, located, (look_fault_iff fun found? looked failed => ?_).mp failed,
          fun _ => free⟩
        have above := (look_fault_iff fun _ _ failed => ?_).mp failed
        · -- What can be looked up can be looked up above its last part.
          have whole := Node.lookup?_append_of_error above [parts.getLast (by simpa using some_step)]
          rw [List.dropLast_append_getLast, looked] at whole
          cases whole
        · repeat' split at failed
          all_goals cases failed
  · rintro ⟨parts, located, failed, free⟩
    refine ⟨parts, located, ?_⟩
    rw [if_neg fun empty => ?_]
    · cases opened : parentEdits document parts with
      | ok edits =>
          have looked := lookupFor_fault_iff.mpr failed
          exact bind_eq_error_iff.mpr (.inr ⟨edits, rfl, bind_eq_error_iff.mpr (.inl looked)⟩)
      | error error =>
          cases error with
          | refused error => exact absurd opened (free kind error)
          | fault other =>
              rw [parentEdits_fault opened] at failed
              cases failed
              rfl
    · rw [List.isEmpty_iff.mp empty] at failed
      cases failed

theorem Change.plan_fault_iff :
    change.plan document = .error (.fault fault) ↔ change.IsComplete ∧
      (change.locate document = .error (.fault fault) ∨ change.WalksInto document fault) := by
  have complete : ∀ {outcome : Prop}, change.kind ≠ .renameKey →
      (outcome ↔ change.IsComplete ∧ outcome) := fun other =>
    (and_iff_right (isComplete_of_ne other)).symm
  rw [plan]
  cases kind : change.kind with
  | renameKey => exact planRename_fault_iff kind
  | set => exact (planSet_fault_iff kind).trans (complete (by simp [kind]))
  | add => exact (planAdd_fault_iff kind).trans (complete (by simp [kind]))
  | remove => exact (planRemove_fault_iff kind).trans (complete (by simp [kind]))
  | merge => exact (planMerge_fault_iff kind).trans (complete (by simp [kind]))

/-- Where the way of a change can be looked up, the change is planned or refused. -/
theorem Change.plan_ok_or_refused {found? : Option Node}
    (located : change.locate document = .ok parts) (looked : document.lookup? parts = .ok found?) :
    (∃ edits, change.plan document = .ok edits) ∨
      ∃ error, change.plan document = .error (.refused error) := by
  cases planned : change.plan document with
  | ok edits => exact .inl ⟨edits, rfl⟩
  | error error =>
      cases error with
      | refused error => exact .inr ⟨error, rfl⟩
      | fault fault =>
          obtain ⟨_, failed | ⟨others, same, failed, _⟩⟩ := plan_fault_iff.mp planned
          · rw [located] at failed
            cases failed
          · cases located.symm.trans same
            rw [looked] at failed
            cases failed

theorem Change.apply_refused {error : PatchError}
    (refused : change.plan document = .error (.refused error)) :
    change.apply document = .error (.refused error) :=
  bind_eq_error_iff.mpr (.inl refused)

/-! ## Changes -/

theorem Address.ofText_fault {text : String} (failed : ofText text = .error (.fault fault)) :
    fault = .badValue := by
  rw [ofText] at failed
  repeat' split at failed
  all_goals cases failed
  rfl

theorem Address.locate_fault_iff {text : String} : locate document text = .error (.fault fault) ↔
    (fault = .badValue ∧ ofText text = .error (.fault .badValue)) ∨
      (fault = .unsupported ∧ ∃ address, ofText text = .ok address ∧
        address.crosses document = true) := by
  rw [locate, bind_eq_error_iff]
  constructor
  · rintro (failed | ⟨address, read, failed⟩)
    · obtain rfl := ofText_fault failed
      exact .inl ⟨rfl, failed⟩
    · split at failed
      · rename_i crosses
        cases failed
        exact .inr ⟨rfl, address, read, crosses⟩
      · split at failed <;> cases failed
  · rintro (⟨rfl, failed⟩ | ⟨rfl, address, read, crosses⟩)
    · exact .inl failed
    · refine .inr ⟨address, read, ?_⟩
      rw [if_pos crosses]

theorem Change.locate_fault_iff : change.locate document = .error (.fault fault) ↔
    Address.locate document change.address = .error (.fault fault) := by
  rw [Change.locate, mapError_eq_error_iff]
  constructor
  · rintro ⟨error, failed, same⟩
    cases error with
    | refused error => cases same
    | fault other =>
        cases same
        exact failed
  · exact fun failed => ⟨_, failed, rfl⟩

/-- What makes a change stop with a fault. -/
inductive Change.Breaks (change : Change) (document : Node) : Fault → Prop where
  /-- The address has a number with too many digits. -/
  | unreadable :
      change.IsComplete → Address.ofText change.address = .error (.fault .badValue) →
      Breaks change document .badValue
  /-- The address crosses two ways, and following it comes to where they do. -/
  | crossed {address : Address} :
      change.IsComplete → Address.ofText change.address = .ok address →
      address.crosses document = true → Breaks change document .unsupported
  /-- The address means a way that counts past the start of a list, and the change walks along it. -/
  | overrun {parts : List Part} :
      change.IsComplete → change.locate document = .ok parts → document.OverrunsStart parts →
      (change.kind = .set → ∀ error, parentEdits document parts ≠ .error (.refused error)) →
      Breaks change document .outOfRange
  /-- An edit needs an item of a list under a number with too many digits. -/
  | overflow {made late : List Edit} {edit : Edit} {working : Node} :
      change.plan document = .ok (made ++ edit :: late) →
      Edit.applyAll made document = .ok working → working.Overflows edit.tokens →
      Breaks change document .badValue

theorem Change.carryOut_fault_iff {edits : List Edit} :
    change.carryOut edits document = .error (.fault fault) ↔ fault = .badValue ∧
      ∃ made edit late working, edits = made ++ edit :: late ∧
        Edit.applyAll made document = .ok working ∧ working.Overflows edit.tokens := by
  rw [carryOut, mapError_eq_error_iff]
  constructor
  · rintro ⟨error, failed, same⟩
    obtain ⟨made, edit, late, working, rfl, done, failed⟩ := foldlM_eq_error_iff.mp failed
    cases error with
    | conflict => cases same
    | fault other =>
        cases same
        obtain ⟨rfl, overflows⟩ := Edit.apply_fault_iff.mp failed
        exact ⟨rfl, made, edit, late, working, rfl, done, overflows⟩
  · rintro ⟨rfl, made, edit, late, working, rfl, done, overflows⟩
    refine ⟨.fault .badValue, foldlM_eq_error_iff.mpr ?_, rfl⟩
    exact ⟨made, edit, late, working, rfl, done, Edit.apply_fault_iff.mpr ⟨rfl, overflows⟩⟩

/-- The causes of the faults of changes are just these. -/
theorem Change.apply_fault_iff :
    change.apply document = .error (.fault fault) ↔ change.Breaks document fault := by
  constructor
  · intro failed
    rcases bind_eq_error_iff.mp failed with failed | ⟨edits, planned, failed⟩
    · obtain ⟨complete, failed | ⟨parts, located, failed, free⟩⟩ := plan_fault_iff.mp failed
      · rcases Address.locate_fault_iff.mp (locate_fault_iff.mp failed) with ⟨rfl, unread⟩ | ⟨rfl, address, read, crosses⟩
        · exact .unreadable complete unread
        · exact .crossed complete read crosses
      · obtain ⟨rfl, overruns⟩ := Node.lookup?_eq_error_iff.mp failed
        exact .overrun complete located overruns free
    · obtain ⟨rfl, made, edit, late, working, rfl, done, overflows⟩ := carryOut_fault_iff.mp failed
      exact .overflow planned done overflows
  · intro breaks
    cases breaks with
    | unreadable complete failed =>
        refine bind_eq_error_iff.mpr (.inl (plan_fault_iff.mpr ⟨complete, .inl ?_⟩))
        exact locate_fault_iff.mpr (Address.locate_fault_iff.mpr (.inl ⟨rfl, failed⟩))
    | crossed complete read crosses =>
        refine bind_eq_error_iff.mpr (.inl (plan_fault_iff.mpr ⟨complete, .inl ?_⟩))
        exact locate_fault_iff.mpr (Address.locate_fault_iff.mpr (.inr ⟨rfl, _, read, crosses⟩))
    | overrun complete located overruns free =>
        refine bind_eq_error_iff.mpr (.inl (plan_fault_iff.mpr ⟨complete, .inr ?_⟩))
        exact ⟨_, located, Node.lookup?_eq_error_iff.mpr ⟨rfl, overruns⟩, free⟩
    | overflow planned done overflows =>
        refine bind_eq_error_iff.mpr (.inr ⟨_, planned, ?_⟩)
        exact carryOut_fault_iff.mpr ⟨rfl, _, _, _, _, rfl, done, overflows⟩

end ApiReview
