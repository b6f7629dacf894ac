import ApiReview.Address.Builder
import ApiReview.Proofs.Number.Digits
import ApiReview.Proofs.Text.LetterCase

/-! What the reader of tokens makes of the texts that the builders write: quoted
names come back whatever they hold, a plain word ends where no further character
of a word follows, and a position is the number that its digits write. -/

set_option autoImplicit false

namespace ApiReview.Address

open ApiReview.Text

variable {c : Char} {text rest behind more : List Char} {token : Token}

/-- A token at the front of a text, behind blanks, is read before the others. -/
theorem tokens?_of_readToken? (skipped : skipBlanks text = c :: more)
    (read : readToken? (c :: more) = some (token, behind)) (shorter : behind.length < text.length) :
    tokens? text = (tokens? behind).map (token :: ·) := by
  rw [tokens?, skipped]
  simp only [read, Option.bind_some, if_pos shorter]

theorem tokens?_cons (read : readToken? (c :: rest) = some (token, behind))
    (visible : skipBlanks (c :: rest) = c :: rest) (shorter : behind.length < rest.length + 1) :
    tokens? (c :: rest) = (tokens? behind).map (token :: ·) :=
  tokens?_of_readToken? visible read (by rwa [List.length_cons])

@[simp] theorem tokens?_nil : tokens? [] = some [] := by
  rw [tokens?]
  rfl

/-! ## Single marks -/

theorem tokens?_openBracket : tokens? ('[' :: rest) = (tokens? rest).map (.openBracket :: ·) :=
  tokens?_cons rfl rfl (Nat.lt_succ_self _)

theorem tokens?_closeBracket : tokens? (']' :: rest) = (tokens? rest).map (.closeBracket :: ·) :=
  tokens?_cons rfl rfl (Nat.lt_succ_self _)

theorem tokens?_question : tokens? ('?' :: rest) = (tokens? rest).map (.question :: ·) :=
  tokens?_cons rfl rfl (Nat.lt_succ_self _)

theorem tokens?_openParenthesis :
    tokens? ('(' :: rest) = (tokens? rest).map (.openParenthesis :: ·) :=
  tokens?_cons rfl rfl (Nat.lt_succ_self _)

theorem tokens?_closeParenthesis :
    tokens? (')' :: rest) = (tokens? rest).map (.closeParenthesis :: ·) :=
  tokens?_cons rfl rfl (Nat.lt_succ_self _)

theorem tokens?_root : tokens? ('$' :: rest) = (tokens? rest).map (.root :: ·) :=
  tokens?_cons rfl rfl (Nat.lt_succ_self _)

theorem tokens?_current : tokens? ('@' :: '.' :: rest) = (tokens? ('.' :: rest)).map (.current :: ·) :=
  tokens?_cons rfl rfl (by simp)

theorem tokens?_equal : tokens? ('=' :: '=' :: rest) = (tokens? rest).map (.relation .equal :: ·) :=
  tokens?_cons rfl rfl (by simp)

/-- One `&` between blanks, and the node itself behind it. -/
theorem tokens?_cross : tokens? (' ' :: '&' :: ' ' :: '@' :: '.' :: rest) =
    (tokens? ('.' :: rest)).map fun tokens => .cross :: .current :: tokens := by
  have crossed : tokens? (' ' :: '&' :: ' ' :: '@' :: '.' :: rest) =
      (tokens? (' ' :: '@' :: '.' :: rest)).map (.cross :: ·) :=
    tokens?_of_readToken? rfl rfl (by simp)
  have current : tokens? (' ' :: '@' :: '.' :: rest) = (tokens? ('.' :: rest)).map (.current :: ·) :=
    tokens?_of_readToken? rfl rfl (by simp)
  rw [crossed, current, Option.map_map]
  rfl

/-! ## Words -/

theorem isDecimal_of_isWordStart (start : isWordStart c = true) : Letter.isDecimal c = false := by
  have bounds : c.toNat < 128 ∧ 57 < c.toNat := by
    simp only [isWordStart, Bool.or_eq_true, beq_iff_eq] at start
    rcases start with (capital | small) | rfl
    · have between := Letter.toNat_bounds_of_isAsciiUpper capital
      omega
    · have between := Letter.toNat_bounds_of_isAsciiLower small
      omega
    · decide
  have notDigit : ¬ c ≤ '9' := fun below => by
    have code : c.toNat ≤ 57 := below
    omega
  simp [Letter.isDecimal, Letter.decimalValue?, bounds.1, Letter.isAsciiDigit, notDigit]

/-- A character that starts a word starts no other token. -/
theorem readToken?_word (start : isWordStart c = true) :
    readToken? (c :: rest) = some (readWord [c] rest) := by
  unfold readToken?
  split
  all_goals first
    | (rename_i shape
       cases shape
       done)
    | (rename_i behind shape
       cases shape
       exact absurd start (by decide))
    | skip
  rename_i shape
  cases shape
  rw [if_neg (by simp [isDecimal_of_isWordStart start]), if_pos start]

theorem isWordRest_of_isPlain (plain : (isWordStart c || Letter.isAsciiDigit c) = true) :
    isWordRest c = true := by
  rw [isWordRest, plain, Bool.true_or, Bool.true_or]

def endsWord (text : List Char) : Bool := text.head?.all fun c => !isWordRest c

theorem takeWhile_isWordRest {word : List Char} (inside : ∀ c ∈ word, isWordRest c = true)
    (ends : endsWord rest = true) :
    (word ++ rest).takeWhile isWordRest = word ∧ (word ++ rest).dropWhile isWordRest = rest := by
  have stops : rest.takeWhile isWordRest = [] ∧ rest.dropWhile isWordRest = rest := by
    cases rest with
    | nil => exact ⟨rfl, rfl⟩
    | cons c rest =>
        have outside : isWordRest c = false := by simpa [endsWord] using ends
        simp [outside]
  rw [List.takeWhile_append_of_pos inside, List.dropWhile_append_of_pos inside, stops.1, stops.2,
    List.append_nil]
  exact ⟨rfl, rfl⟩

/-- Words that have a meaning of their own in an address. -/
def isReservedWord (name : String) : Bool := name == "where" || name == "wherenot"

theorem wordToken_toList (name : String) :
    wordToken name.toList = if isReservedWord name then .reserved name else .bare name := by
  simp only [wordToken, String.ofList_toList, isReservedWord, Bool.or_eq_true, beq_iff_eq]

/-- Whether a text is one bare word, in front of which an `@` may stand. -/
def isBareWord : List Char → Bool
  | '@' :: first :: rest => isWordStart first && rest.all isWordRest
  | first :: rest => isWordStart first && rest.all isWordRest
  | [] => false

theorem isBareWord_of_isPlainName (plain : isPlainName text = true) : isBareWord text = true := by
  cases text with
  | nil => cases plain
  | cons first more =>
      rw [isPlainName, Bool.and_eq_true, List.all_eq_true] at plain
      have word : (isWordStart first && more.all isWordRest) = true := by
        rw [Bool.and_eq_true, List.all_eq_true]
        exact ⟨plain.1, fun c among => isWordRest_of_isPlain (plain.2 c among)⟩
      unfold isBareWord
      split
      · rename_i shape
        cases shape
        exact absurd plain.1 (by decide)
      · rename_i shape
        cases shape
        exact word
      · rename_i shape
        cases shape

/-- What a bare word is read as ends where the word ends. -/
theorem readToken?_bare (word : isBareWord text = true) (ends : endsWord rest = true) :
    ∃ first more, text = first :: more ∧ first ≠ '.' ∧
      skipBlanks (first :: (more ++ rest)) = first :: (more ++ rest) ∧
      readToken? (first :: (more ++ rest)) = some (wordToken text, rest) := by
  have apart : ∀ c : Char, isWordRest c = true → c ≠ '.' ∧
      ¬ (c == ' ' || c == '\t' || c == '\n') = true := by
    intro c inside
    refine ⟨fun same => absurd (same ▸ inside) (by decide), ?_⟩
    simp only [Bool.or_eq_true, beq_iff_eq]
    rintro ((rfl | rfl) | rfl) <;> exact absurd inside (by decide)
  have starts : ∀ c : Char, isWordStart c = true → isWordRest c = true := by
    intro c start
    simp [isWordRest, start]
  have visible : ∀ (c : Char) (behind : List Char), isWordRest c = true →
      skipBlanks (c :: behind) = c :: behind := by
    intro c behind inside
    exact List.dropWhile_cons_of_neg (apart c inside).2
  unfold isBareWord at word
  split at word
  · rename_i first more
    rw [Bool.and_eq_true, List.all_eq_true] at word
    obtain ⟨taken, dropped⟩ := takeWhile_isWordRest word.2 ends
    refine ⟨'@', first :: more, rfl, by decide, visible _ _ (by decide), ?_⟩
    rw [List.cons_append, readToken?, if_pos word.1, readWord, taken, dropped]
    rfl
  · rename_i first more notCurrent
    rw [Bool.and_eq_true, List.all_eq_true] at word
    obtain ⟨taken, dropped⟩ := takeWhile_isWordRest word.2 ends
    have inside := starts first word.1
    refine ⟨first, more, rfl, (apart first inside).1, visible _ _ inside, ?_⟩
    rw [readToken?_word word.1, readWord, taken, dropped]
    rfl
  · cases word

theorem tokens?_bare {name : String} (word : isBareWord name.toList = true)
    (ends : endsWord rest = true) :
    tokens? ('.' :: (name.toList ++ rest)) =
      (tokens? rest).map fun tokens => .dot :: wordToken name.toList :: tokens := by
  obtain ⟨first, more, letters, notDot, visible, read⟩ := readToken?_bare word ends
  have dotted : readToken? ('.' :: first :: (more ++ rest)) =
      some (.dot, first :: (more ++ rest)) := by
    rw [readToken?]
    intro behind same
    exact notDot (List.cons.inj same).1
  rw [letters] at read ⊢
  rw [List.cons_append, tokens?_cons dotted rfl (by simp), tokens?_cons read visible (by simp),
    Option.map_map]
  rfl

/-! ## Quoted names -/

theorem readQuoted_flatMap (name : List Char) :
    readQuoted '\'' (name.flatMap quotedChar ++ '\'' :: rest) = some (name, rest) := by
  induction name with
  | nil => cases rest <;> rfl
  | cons c name ih =>
      rw [List.flatMap_cons, List.append_assoc]
      by_cases escaped : c = '\\' ∨ c = '\''
      · have endless : c ≠ '\n' := by rcases escaped with rfl | rfl <;> decide
        rw [quotedChar, if_pos escaped, List.cons_append, List.cons_append, List.nil_append,
          readQuoted, if_neg (by decide), if_pos rfl, if_neg endless, ih]
        rfl
      · rw [not_or] at escaped
        rw [quotedChar, if_neg (by simp [escaped]), List.cons_append, List.nil_append]
        cases shape : name.flatMap quotedChar ++ '\'' :: rest with
        | nil => simp at shape
        | cons d more =>
            rw [shape] at ih
            rw [readQuoted, if_neg escaped.2, if_neg escaped.1, ih]
            rfl

theorem toList_quotedName (name : String) :
    (quotedName name).toList = '\'' :: (name.toList.flatMap quotedChar ++ ['\'']) := by
  rw [quotedName, String.toList_ofList]

theorem tokens?_quoted (name : String) :
    tokens? ((quotedName name).toList ++ rest) = (tokens? rest).map (.quoted name :: ·) := by
  rw [toList_quotedName, List.cons_append, List.append_assoc, List.singleton_append]
  have read : readToken? ('\'' :: (name.toList.flatMap quotedChar ++ '\'' :: rest)) =
      some (.quoted name, rest) := by
    rw [readToken?, readQuoted_flatMap, Option.map_some]
    simp only [String.ofList_toList]
  exact tokens?_cons read rfl (by simp; omega)

/-! ## Positions -/

theorem isDecimal_of_isDigit (digit : c.isDigit = true) : Letter.isDecimal c = true := by
  rw [Letter.isDecimal, (decimalValue?_of_isDigit digit).1]
  rfl

/-- A digit starts no other token than a number. -/
theorem readToken?_digit (digit : c.isDigit = true) :
    readToken? (c :: rest) = readNumber false (c :: rest) := by
  unfold readToken?
  split
  all_goals first
    | (rename_i shape
       cases shape
       done)
    | (rename_i behind shape
       cases shape
       exact absurd digit (by decide))
    | skip
  rename_i shape
  cases shape
  rw [if_pos (isDecimal_of_isDigit digit)]

theorem readNumber_toDigits (index : Nat) (rest : List Char) :
    readNumber false (Nat.toDigits 10 index ++ ']' :: rest) =
      some (if Integer.isTooLong (Nat.toDigits 10 index) then .endlessInt else .int (.ofNat index),
        ']' :: rest) := by
  have decimal : ∀ c ∈ Nat.toDigits 10 index, Letter.isDecimal c = true :=
    fun c among => isDecimal_of_isDigit (isDigit_of_mem_toDigits among)
  have stops : Letter.isDecimal ']' = false := by decide
  rw [readNumber, List.takeWhile_append_of_pos decimal, List.dropWhile_append_of_pos decimal,
    List.takeWhile_cons_of_neg (by simp [stops]), List.dropWhile_cons_of_neg (by simp [stops]),
    List.append_nil]
  cases Integer.isTooLong (Nat.toDigits 10 index) <;> simp [ofDigits?_toDigits]

/-- A position in brackets is read as a number, or as one with too many digits. -/
theorem tokens?_position (index : Nat) (rest : List Char) :
    tokens? ('[' :: (Nat.toDigits 10 index ++ ']' :: rest)) = (tokens? rest).map fun tokens =>
      .openBracket ::
        (if Integer.isTooLong (Nat.toDigits 10 index) then .endlessInt else .int (.ofNat index)) ::
          .closeBracket :: tokens := by
  have digits : ∀ c ∈ Nat.toDigits 10 index, c.isDigit = true := fun _ => isDigit_of_mem_toDigits
  have number := readNumber_toDigits index rest
  generalize (if Integer.isTooLong (Nat.toDigits 10 index) then Token.endlessInt
    else .int (.ofNat index)) = token at number ⊢
  cases letters : Nat.toDigits 10 index with
  | nil => exact absurd letters Nat.toDigits_ne_nil
  | cons first more =>
      rw [letters] at digits number
      have digit := digits first List.mem_cons_self
      rw [List.cons_append] at number ⊢
      have visible : skipBlanks (first :: (more ++ ']' :: rest)) = first :: (more ++ ']' :: rest) := by
        have notBlank : (first == ' ' || first == '\t' || first == '\n') = false := by
          simp only [Bool.or_eq_false_iff, beq_eq_false_iff_ne]
          refine ⟨⟨?_, ?_⟩, ?_⟩ <;> exact fun same => absurd (same ▸ digit) (by decide)
        rw [skipBlanks, List.dropWhile_cons_of_neg (by simp [notBlank])]
      rw [tokens?_openBracket, tokens?_cons ((readToken?_digit digit).trans number) visible
        (by simp), tokens?_closeBracket]
      simp only [Option.map_map]
      rfl

theorem tokens?_item {index : Nat}
    (short : Integer.isTooLong (Nat.toDigits 10 index) = false) :
    tokens? ('[' :: (Nat.toDigits 10 index ++ ']' :: rest)) = (tokens? rest).map fun tokens =>
      .openBracket :: .int (.ofNat index) :: .closeBracket :: tokens := by
  rw [tokens?_position, short]
  rfl

end ApiReview.Address
