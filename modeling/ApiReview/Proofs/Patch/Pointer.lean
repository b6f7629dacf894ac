import ApiReview.Proofs.Node.Alike
import ApiReview.Proofs.Patch.Again

/-! Reading at pointers. The tokens of a pointer lead along one way in a document,
since an item is only found under the digits that its position is written with.
So what a graft leaves at a way it leaves at a pointer. -/

set_option autoImplicit false

namespace ApiReview

open ApiReview.Text

variable {path more : List String} {token : String} {way front : List Part} {part : Part}
  {document node found value : Node}

/-! ## Positions -/

theorem listPosition_ok {index : Nat} (read : listPosition token = .ok index) :
    token = (Part.position (.ofNat index)).token ∧
      (Part.position (.ofNat index)).isReadable = true := by
  rw [listPosition] at read
  split at read
  · cases read
  rename_i plain
  split at read
  · cases read
  rename_i front
  split at read
  · cases read
  rename_i short
  simp only [Bool.or_eq_true, Bool.not_eq_true', List.isEmpty_iff, not_or, Bool.not_eq_false,
    List.all_eq_true] at plain
  have decimal : ∀ c ∈ token.toList, c.isDigit = true := by
    intro c among
    simpa [Char.isDigit, Letter.isAsciiDigit, Char.le_def] using plain.2 c among
  have alone : token.toList.head? = some '0' → token.toList = ['0'] := by
    intro zero
    obtain ⟨rest, shape⟩ := List.head?_eq_some_iff.mp zero
    cases rest with
    | nil => exact shape
    | cons next rest => simp [shape] at front
  rw [ofDigits?_eq decimal] at read
  have digits := toDigits_ofDigitChars decimal plain.1 alone
  rw [Except.ok.inj read] at digits
  have written : (Part.position (.ofNat index)).token.toList = Nat.toDigits 10 index :=
    Nat.toList_repr
  refine ⟨String.toList_injective (by rw [written, digits]), ?_⟩
  rw [← digits, isTooLong_toDigits] at short
  rw [Part.isReadable, Bool.eq_false_iff.mpr short]
  rfl

/-! ## Ways of pointers -/

namespace Node

theorem partAt_append : node.partAt (path ++ more) = node.partAt path >>= partAt more := by
  induction path generalizing node with
  | nil => rfl
  | cons token path ih =>
      rw [List.cons_append, partAt, partAt]
      cases node.shape.child token with
      | error error => rfl
      | ok child => exact ih

theorem part?_of_child (stepped : node.shape.child token = .ok found) :
    ∃ part, part.token = token ∧ part.isReadable = true ∧ node.part? part = some found := by
  cases node with
  | object members =>
      refine ⟨.name token, rfl, rfl, ?_⟩
      simp only [Node.shape, Shape.child] at stepped
      split at stepped
      · rename_i read
        exact read.trans (congrArg some (Except.ok.inj stepped))
      · cases stepped
  | list items =>
      simp only [Node.shape, Shape.child] at stepped
      obtain ⟨index, written, stepped⟩ := bind_ok stepped
      obtain ⟨same, readable⟩ := listPosition_ok written
      refine ⟨.position (.ofNat index), same.symm, readable, ?_⟩
      split at stepped
      · rename_i read
        exact read.trans (congrArg some (Except.ok.inj stepped))
      · cases stepped
  | _ => cases stepped

/-- What is found at a pointer is found at the end of a way with its tokens. -/
theorem at?_of_partAt (read : document.partAt path = .ok value) :
    ∃ way, tokensOf way = path ∧ (∀ part ∈ way, part.isReadable = true) ∧
      document.at? way = some value := by
  induction path generalizing document with
  | nil => exact ⟨[], rfl, nofun, congrArg some (Except.ok.inj read)⟩
  | cons token path ih =>
      obtain ⟨child, stepped, read⟩ := bind_ok read
      obtain ⟨part, same, readable, taken⟩ := part?_of_child stepped
      obtain ⟨way, rfl, others, reached⟩ := ih read
      refine ⟨part :: way, congrArg (· :: tokensOf way) same, ?_, ?_⟩
      · exact List.forall_mem_cons.mpr ⟨readable, others⟩
      · rw [at?_cons, taken]
        exact reached

theorem partAt_of_readable (readable : ∀ part ∈ way, part.isReadable = true)
    (reached : document.at? way = some value) : document.partAt (tokensOf way) = .ok value := by
  induction way generalizing document with
  | nil => exact congrArg Except.ok (Option.some.inj reached)
  | cons part way ih =>
      obtain ⟨child, stepped, reached⟩ := Option.bind_eq_some_iff.mp reached
      have walked := child_of_readable (readable part List.mem_cons_self) stepped
      have later := ih (fun other among => readable other (List.mem_cons_of_mem _ among)) reached
      rw [tokensOf, List.map_cons, partAt, walked]
      exact later

theorem isReadable_of_child (stepped : node.part? part = some value)
    (read : node.shape.child part.token = .ok found) : part.isReadable = true := by
  cases part with
  | name name => rfl
  | position index =>
      rcases takes_cases (takes_of_part? stepped) with
        ⟨_, _, impossible, _⟩ | ⟨index, items, same, rfl, within⟩
      · cases impossible
      · cases same
        obtain ⟨position, written, _⟩ := bind_ok read
        rw [← listPosition_token written]
        exact (listPosition_ok written).2

theorem isReadable_of_partAt (reached : document.at? way = some value)
    (read : document.partAt (tokensOf way) = .ok found) :
    ∀ part ∈ way, part.isReadable = true := by
  induction way generalizing document with
  | nil => nofun
  | cons part way ih =>
      obtain ⟨child, stepped, reached⟩ := Option.bind_eq_some_iff.mp reached
      obtain ⟨next, walked, read⟩ := bind_ok read
      rw [child_of_part? stepped walked] at read
      exact List.forall_mem_cons.mpr ⟨isReadable_of_child stepped walked, ih reached read⟩

/-! ## After a graft -/

/-- What is found at a pointer beside the place of a graft is found there again. -/
theorem partAt_graft_beside (read : document.partAt path = .ok found)
    (apart : ¬ tokensOf way <+: path) (aside : ¬ path <+: tokensOf way) :
    (graft value way document).partAt path = .ok found := by
  obtain ⟨other, rfl, readable, reached⟩ := at?_of_partAt read
  refine partAt_of_readable readable ?_
  rw [at?_graft_beside (fun inside => apart (inside.map Part.token))
    fun inside => aside (inside.map Part.token)]
  exact reached

/-- Where only a value under names is, the pointers are those to it and those below it. -/
theorem prefix_of_partAt_created {names : List String}
    (read : (graft value (names.map .name) (.object [])).partAt path = .ok found) :
    path <+: names ∨ names <+: path := by
  induction names generalizing path with
  | nil => exact .inr List.nil_prefix
  | cons name names ih =>
      cases path with
      | nil => exact .inl List.nil_prefix
      | cons token path =>
          obtain ⟨child, stepped, below⟩ := bind_ok read
          by_cases same : token = name
          · subst same
            have only : (graft value ((token :: names).map .name) (.object [])).part?
                (.name token) = some (graft value (names.map .name) (.object [])) :=
              part?_withPart_self rfl
            rw [child_of_part? only stepped] at below
            rcases ih below with inside | inside
            · exact .inl (List.cons_prefix_cons.mpr ⟨rfl, inside⟩)
            · exact .inr (List.cons_prefix_cons.mpr ⟨rfl, inside⟩)
          · obtain ⟨part, rfl, _, taken⟩ := part?_of_child stepped
            rw [List.map_cons, graft_cons, part?_withPart_ne fun equal => ?_] at taken
            · cases part with
              | name other => cases taken
              | position index => cases index <;> cases taken
            · exact same (congrArg Part.token equal)

end Node

end ApiReview
