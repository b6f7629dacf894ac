import ApiReview.Proofs.Address.Located
import ApiReview.Proofs.Patch.Place

/-! Positions that were read can be written. A number with too many digits makes the
text of an address unreadable, so that every position in an address that was read has
few enough digits for the pointer that is made of it. Only the selectors of single
parts matter here; what stands in filters is not followed. -/

set_option autoImplicit false

namespace ApiReview

open ApiReview.Text

/-- Every position that a step names has few enough digits to be written. -/
def Step.IsShort : Step → Prop
  | .positions indexes => ∀ index ∈ indexes, Integer.isUnwritable index = false
  | _ => True

namespace Address

variable {token : Token} {tokens rest : List Token} {text behind : List Char}

/-! ## Tokens -/

/-- A number that a token holds has few enough digits to be written. -/
def Token.IsShort : Token → Prop
  | .int number => Integer.isUnwritable number = false
  | _ => True

theorem isShort_of_ofDigits? {digits : List Char} {number : Nat} (negative : Bool)
    (few : Integer.isTooLong digits = false) (read : Integer.ofDigits? digits = some number) :
    (Token.int (if negative then -Int.ofNat number else Int.ofNat number)).IsShort := by
  have size : (if negative then -Int.ofNat number else Int.ofNat number).natAbs = number := by
    cases negative <;> simp
  rw [Integer.isTooLong] at few
  rw [Token.IsShort, Integer.isUnwritable, size]
  generalize Integer.digitLimit = limit at few ⊢
  have inside : digits.length ≤ limit := Nat.le_of_not_lt (of_decide_eq_false few)
  have below : number < 10 ^ limit :=
    Nat.lt_of_lt_of_le (ofDigits?_lt read) (Nat.pow_le_pow_right (by decide) inside)
  exact decide_eq_false (Nat.not_le_of_lt below)

theorem readNumber_isShort {negative : Bool} (read : readNumber negative text = some (token, behind)) :
    token.IsShort := by
  unfold readNumber at read
  extract_lets whole after fraction at read
  clear_value fraction after
  split at read
  · cases read
    trivial
  · rename_i short
    split at read
    · rename_i bare
      obtain ⟨number, digits, same⟩ := Option.bind_eq_some_iff.mp read
      cases same
      rw [bare, Bool.true_and, Bool.not_eq_true] at short
      exact isShort_of_ofDigits? negative short digits
    · obtain ⟨digits, _, same⟩ := Option.bind_eq_some_iff.mp read
      cases same
      trivial

theorem readWord_isShort (first text : List Char) : (readWord first text).1.IsShort := by
  simp only [readWord, wordToken]
  split <;> trivial

/-- Every token that is read is short. -/
theorem readToken?_isShort (read : readToken? text = some (token, behind)) : token.IsShort := by
  unfold readToken? at read
  repeat' split at read
  all_goals first
    | exact readNumber_isShort read
    | cases read; exact readWord_isShort _ _
    | cases read <;> trivial
    | obtain ⟨_, _, same⟩ := Option.map_eq_some_iff.mp read; cases same; trivial

theorem tokens?_isShort (read : tokens? text = some tokens) : ∀ token ∈ tokens, token.IsShort := by
  induction text using tokens?.induct generalizing tokens with
  | case1 text empty =>
      rw [tokens?, empty] at read
      cases read
      exact List.forall_mem_nil _
  | case2 text c rest some_char ih =>
      rw [tokens?, some_char] at read
      obtain ⟨⟨token, behind⟩, first, read⟩ := Option.bind_eq_some_iff.mp read
      dsimp only at read
      split at read
      · rename_i shorter
        obtain ⟨later, more, rfl⟩ := Option.map_eq_some_iff.mp read
        intro other among
        rcases List.mem_cons.mp among with rfl | among
        · exact readToken?_isShort first
        · exact ih behind shorter more other among
      · cases read

/-! ## Steps -/

section Reading

variable (short : ∀ token ∈ tokens, token.IsShort)

include short

theorem readNames_isShort {names : List String} (read : readNames tokens = some (names, rest)) :
    ∀ token ∈ rest, token.IsShort := by
  induction tokens using readNames.induct generalizing names with
  | case1 name tokens ih =>
      rw [readNames] at read
      obtain ⟨_, _, read⟩ := Option.bind_eq_some_iff.mp read
      obtain ⟨⟨more, behind⟩, later, same⟩ := Option.bind_eq_some_iff.mp read
      cases same
      exact ih (fun token among => short token (by simp [among])) later
  | case2 name tokens =>
      rw [readNames] at read
      obtain ⟨_, _, same⟩ := Option.map_eq_some_iff.mp read
      cases same
      exact fun token among => short token (by simp [among])
  | case3 tokens noComma noBracket =>
      rw [readNames] at read
      · cases read
      · exact noComma
      · exact noBracket

theorem readPositions_isShort {indexes : List Int}
    (read : readPositions tokens = some (indexes, rest)) :
    (∀ index ∈ indexes, Integer.isUnwritable index = false) ∧ ∀ token ∈ rest, token.IsShort := by
  induction tokens using readPositions.induct generalizing indexes with
  | case1 index tokens ih =>
      rw [readPositions] at read
      obtain ⟨⟨more, behind⟩, later, same⟩ := Option.map_eq_some_iff.mp read
      cases same
      obtain ⟨writable, left⟩ := ih (fun token among => short token (by simp [among])) later
      exact ⟨List.forall_mem_cons.mpr ⟨short _ List.mem_cons_self, writable⟩, left⟩
  | case2 index tokens =>
      rw [readPositions] at read
      cases read
      refine ⟨List.forall_mem_singleton.mpr (short _ List.mem_cons_self), ?_⟩
      exact fun token among => short token (by simp [among])
  | case3 tokens noComma noBracket =>
      rw [readPositions] at read
      · cases read
      · exact noComma
      · exact noBracket

theorem readBracket_isShort {step : Step} (read : readBracket tokens = some (step, rest)) :
    step.IsShort ∧ ∀ token ∈ rest, token.IsShort := by
  unfold readBracket at read
  split at read
  case h_6 =>
    obtain ⟨⟨indexes, behind⟩, positions, same⟩ := Option.map_eq_some_iff.mp read
    cases same
    exact readPositions_isShort short positions
  case h_7 =>
    obtain ⟨⟨names, behind⟩, named, same⟩ := Option.map_eq_some_iff.mp read
    cases same
    exact ⟨trivial, readNames_isShort short named⟩
  all_goals
    cases read
    exact ⟨trivial, fun token among => short token (by simp [among])⟩

theorem readStep?_isShort {step : Step} (read : readStep? tokens = some (step, rest)) :
    step.IsShort ∧ ∀ token ∈ rest, token.IsShort := by
  unfold readStep? at read
  split at read
  case h_5 | h_6 => exact readBracket_isShort (fun token among => short token (by simp [among])) read
  all_goals
    cases read <;> exact ⟨trivial, fun token among => short token (by simp [among])⟩

end Reading

/-! ## Selectors -/

variable {address before stretch : Address} {step : Step} {way : List Part}

theorem readStep?_of_readSelector? (read : readSelector? tokens = some (.step step, rest)) :
    readStep? tokens = some (step, rest) := by
  unfold readSelector? at read
  split at read
  · obtain ⟨⟨conditions, behind⟩, _, read⟩ := Option.bind_eq_some_iff.mp read
    dsimp only at read
    split at read <;> cases read
  · obtain ⟨⟨found, behind⟩, stepped, same⟩ := Option.map_eq_some_iff.mp read
    cases same
    exact stepped

/-- Reading goes on behind a selector, in the same stretch or in the next, or behind a crossing. -/
theorem readSelectors?_cons_ok {token : Token}
    (read : readSelectors? before stretch (token :: tokens) = some address) :
    ∃ selector behind front last, behind.length < tokens.length + 1 ∧
      readSelectors? front last behind = some address ∧ selector ∈ front ++ last ∧
      (selector = .crossing ∨ readSelector? (token :: tokens) = some (selector, behind) ∧
        front ++ last = before ++ stretch ++ [selector]) := by
  rw [readSelectors?] at read
  split at read
  · obtain ⟨⟨_, behind⟩, _, read⟩ := Option.bind_eq_some_iff.mp read
    dsimp only at read
    split at read
    · rename_i shorter
      exact ⟨.crossing, behind, before, [.crossing], shorter, read, by simp, .inl rfl⟩
    · cases read
  · obtain ⟨⟨selector, behind⟩, first, read⟩ := Option.bind_eq_some_iff.mp read
    dsimp only at read
    split at read
    · rename_i shorter
      split at read
      · exact ⟨selector, behind, before ++ stretch, [selector], shorter, read, by simp,
          .inr ⟨first, rfl⟩⟩
      · exact ⟨selector, behind, before, stretch ++ [selector], shorter, read, by simp,
          .inr ⟨first, (List.append_assoc ..).symm⟩⟩
    · cases read

section Plain

variable (plain : ∀ selector ∈ address, ∃ step, selector = Selector.step step)

include plain

/-- Selectors that were read stay where no stretch is crossed. -/
theorem readSelectors?_subset (read : readSelectors? before stretch tokens = some address) :
    before ++ stretch ⊆ address := by
  induction size : tokens.length using Nat.strong_induction_on generalizing tokens before stretch with
  | _ size ih =>
      cases tokens with
      | nil =>
          rw [readSelectors?] at read
          cases read
          exact List.Subset.refl _
      | cons token tokens =>
          obtain ⟨selector, behind, front, last, shorter, further, inside, found⟩ :=
            readSelectors?_cons_ok read
          have later := ih behind.length (by rw [← size]; exact shorter) further rfl
          rcases found with rfl | ⟨_, split⟩
          · obtain ⟨step, impossible⟩ := plain _ (later inside)
            cases impossible
          · rw [split] at later
            exact fun other among => later (List.mem_append_left _ among)

theorem readSelectors?_isShort (short : ∀ token ∈ tokens, token.IsShort)
    (read : readSelectors? before stretch tokens = some address)
    (known : ∀ step, Selector.step step ∈ before ++ stretch → step.IsShort) :
    ∀ step, Selector.step step ∈ address → step.IsShort := by
  induction size : tokens.length using Nat.strong_induction_on generalizing tokens before stretch with
  | _ size ih =>
      cases tokens with
      | nil =>
          rw [readSelectors?] at read
          cases read
          exact known
      | cons token tokens =>
          obtain ⟨selector, behind, front, last, shorter, further, inside, found⟩ :=
            readSelectors?_cons_ok read
          obtain ⟨step, rfl⟩ := plain selector (readSelectors?_subset plain further inside)
          rcases found with impossible | ⟨first, split⟩
          · cases impossible
          · obtain ⟨stepShort, left⟩ := readStep?_isShort short (readStep?_of_readSelector? first)
            refine ih behind.length (by rw [← size]; exact shorter) left further ?_ rfl
            intro other among
            rw [split] at among
            rcases List.mem_append.mp among with among | among
            · exact known other among
            · cases List.mem_singleton.mp among
              exact stepShort

end Plain

/-- Every position in an address that was read can be written. -/
theorem isReadable_of_ofText {text : String} (read : ofText text = .ok (way.map partSelector)) :
    ∀ part ∈ way, part.isReadable = true := by
  have plain : ∀ selector ∈ way.map partSelector, ∃ step, selector = Selector.step step := by
    intro selector among
    obtain ⟨part, _, rfl⟩ := List.mem_map.mp among
    cases part <;> exact ⟨_, rfl⟩
  rw [ofText] at read
  split at read
  · cases read
  split at read
  · cases read
  rename_i tokens tokenized
  split at read
  · cases read
  split at read
  · rename_i address selected
    cases read
    unfold ofTokens? at selected
    split at selected
    · rename_i rest
      have short := tokens?_isShort tokenized
      have steps := readSelectors?_isShort plain
        (fun token among => short token (List.mem_cons_of_mem _ among)) selected
        fun step among => absurd among List.not_mem_nil
      intro part among
      have selector : partSelector part ∈ way.map partSelector := List.mem_map_of_mem among
      cases part with
      | name name => rfl
      | position index =>
          have writable := steps _ selector index (List.mem_singleton.mpr rfl)
          rw [Part.isReadable, writable]
          rfl
    · cases selected
  · cases read

end Address

end ApiReview
