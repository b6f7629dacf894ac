import ApiReview.Address.Reader
import ApiReview.Proofs.Address.Tokens

/-! Addresses as the builders write them: a root and steps that name a member bare,
name one in quotes, count an item, or filter a list of parameters. Reading such a
text gives back its steps, whatever names stand in quotes; a bare word that the
grammar reserves makes the text unreadable. -/

set_option autoImplicit false

namespace ApiReview.Address

open ApiReview.Text

/-- A step as the builders write it. -/
inductive WrittenStep
  /-- A member, bare behind a dot. -/
  | bare (name : String)
  /-- A member, quoted in brackets. -/
  | quoted (name : String)
  /-- An item, by its position. -/
  | item (index : Nat)
  /-- The parameters with a name, and in a location if that is not empty. -/
  | parameter (name : String) (location? : Option String)

namespace WrittenStep

/-- The text of a step. -/
def text : WrittenStep → String
  | .bare name => "." ++ name
  | .quoted name => member name
  | .item index => Address.item index
  | .parameter name location? => parameterFilter name location?

/-- The location that a filter asks for. -/
def askedLocation? (location? : Option String) : Option String :=
  location?.filter fun location => !location.isEmpty

def partIs (part text : String) : Condition := ⟨[.names [part]], some (.equal, .str text), false⟩

def parameterConditions (name : String) (location? : Option String) : List Condition :=
  partIs "name" name :: (askedLocation? location?).toList.map (partIs "in")

def selector : WrittenStep → Selector
  | .bare name => .step (.names [name])
  | .quoted name => .step (.names [name])
  | .item index => .step (.positions [.ofNat index])
  | .parameter name location? => .filter (parameterConditions name location?)

/-- Whether the tokens of a step can be read: a bare name has to be a word, and a position must not
have too many digits. -/
def isPlain : WrittenStep → Bool
  | .bare name => isBareWord name.toList
  | .item index => !Integer.isUnwritable (.ofNat index)
  | _ => true

/-- Whether a step can be read and does not go by a position. -/
def isNaming : WrittenStep → Bool
  | .item _ => false
  | step => step.isPlain

/-- Whether a step is written with a word that the grammar reserves. -/
def isReserved : WrittenStep → Bool
  | .bare name => isReservedWord name
  | _ => false

/-- The tokens of a condition of a filter. -/
def conditionTokens (part text : String) : List Token :=
  [.current, .dot, .bare part, .relation .equal, .quoted text]

/-- The tokens of a step. -/
def tokens : WrittenStep → List Token
  | .bare name => [.dot, wordToken name.toList]
  | .quoted name => [.openBracket, .quoted name, .closeBracket]
  | .item index => [.openBracket, .int (.ofNat index), .closeBracket]
  | .parameter name location? =>
    .openBracket :: .question :: .openParenthesis :: conditionTokens "name" name ++
      (match askedLocation? location? with
        | some location => .cross :: conditionTokens "in" location
        | none => []) ++ [.closeParenthesis, .closeBracket]

end WrittenStep

open WrittenStep

variable {step : WrittenStep} {steps : List WrittenStep} {rest : List Char}

theorem WrittenStep.isPlain_of_isNaming (naming : step.isNaming = true) : step.isPlain = true := by
  cases step with
  | item index => cases naming
  | bare name | quoted name | parameter name location? => exact naming

/-! ## Tokens of steps -/

theorem toList_parameterFilter (name : String) (location? : Option String) :
    (parameterFilter name location?).toList =
      '[' :: '?' :: '(' :: '@' :: '.' :: ("name".toList ++ '=' :: '=' ::
        ((quotedName name).toList ++
          (match askedLocation? location? with
            | some location =>
              ' ' :: '&' :: ' ' :: '@' :: '.' ::
                ("in".toList ++ '=' :: '=' :: (quotedName location).toList)
            | none => []) ++ [')', ']'])) := by
  cases location? with
  | none => simp [parameterFilter, askedLocation?]
  | some location =>
      cases empty : location.isEmpty <;> simp [parameterFilter, askedLocation?, Option.filter_some, empty]

theorem tokens?_written (plain : step.isPlain = true) (ends : endsWord rest = true) :
    tokens? (step.text.toList ++ rest) = (tokens? rest).map (step.tokens ++ ·) := by
  cases step with
  | bare name =>
      have shape : (WrittenStep.bare name).text.toList ++ rest = '.' :: (name.toList ++ rest) := by
        simp [WrittenStep.text]
      rw [shape, tokens?_bare plain ends]
      rfl
  | quoted name =>
      have shape : (WrittenStep.quoted name).text.toList ++ rest =
          '[' :: ((quotedName name).toList ++ ']' :: rest) := by
        simp [WrittenStep.text, member]
      rw [shape, tokens?_openBracket, tokens?_quoted, tokens?_closeBracket]
      simp only [Option.map_map]
      rfl
  | item index =>
      have shape : (WrittenStep.item index).text.toList ++ rest =
          '[' :: (Nat.toDigits 10 index ++ ']' :: rest) := by
        simp [WrittenStep.text, Address.item]
      have short : Integer.isTooLong (Nat.toDigits 10 index) = false := by
        rw [isTooLong_toDigits]
        simpa [WrittenStep.isPlain] using plain
      rw [shape, tokens?_item short]
      rfl
  | parameter name location? =>
      have named : endsWord ('=' :: '=' :: rest) = true := rfl
      rw [WrittenStep.text, toList_parameterFilter]
      cases asked : askedLocation? location? with
      | none =>
          simp only [List.cons_append, List.append_assoc, List.nil_append]
          rw [tokens?_openBracket, tokens?_question, tokens?_openParenthesis, tokens?_current,
            tokens?_bare (by decide) rfl, tokens?_equal, tokens?_quoted,
            tokens?_closeParenthesis, tokens?_closeBracket]
          simp only [Option.map_map, WrittenStep.tokens, asked]
          rfl
      | some location =>
          simp only [List.cons_append, List.append_assoc, List.nil_append]
          rw [tokens?_openBracket, tokens?_question, tokens?_openParenthesis, tokens?_current,
            tokens?_bare (by decide) rfl, tokens?_equal, tokens?_quoted, tokens?_cross,
            tokens?_bare (by decide) rfl, tokens?_equal, tokens?_quoted,
            tokens?_closeParenthesis, tokens?_closeBracket]
          simp only [Option.map_map, WrittenStep.tokens, asked]
          rfl

/-- A written step ends the word in front of it. -/
theorem endsWord_text (step : WrittenStep) (rest : List Char) :
    endsWord (step.text.toList ++ rest) = true := by
  cases step with
  | bare name =>
      simp only [WrittenStep.text, String.toList_append]
      rfl
  | quoted name =>
      simp only [WrittenStep.text, member, String.toList_append]
      rfl
  | item index =>
      simp only [WrittenStep.text, Address.item, String.toList_append]
      rfl
  | parameter name location? =>
      rw [WrittenStep.text, toList_parameterFilter]
      rfl

def writtenText (steps : List WrittenStep) : List Char := steps.flatMap fun step => step.text.toList

theorem tokens?_writtenText_append (plain : ∀ step ∈ steps, step.isPlain = true)
    (ends : endsWord rest = true) :
    tokens? (writtenText steps ++ rest) =
      (tokens? rest).map (steps.flatMap WrittenStep.tokens ++ ·) := by
  induction steps with
  | nil => simp [writtenText]
  | cons step steps ih =>
      have behind : endsWord (writtenText steps ++ rest) = true := by
        cases steps with
        | nil => exact ends
        | cons next steps =>
            rw [writtenText, List.flatMap_cons, List.append_assoc]
            exact endsWord_text next _
      have later := ih fun other among => plain other (List.mem_cons_of_mem _ among)
      have split : writtenText (step :: steps) ++ rest =
          step.text.toList ++ (writtenText steps ++ rest) := by
        rw [writtenText, List.flatMap_cons, List.append_assoc]
        rfl
      rw [split, tokens?_written (plain step List.mem_cons_self) behind, later, Option.map_map,
        List.flatMap_cons]
      simp only [Function.comp_def, List.append_assoc]

theorem tokens?_writtenText (plain : ∀ step ∈ steps, step.isPlain = true) :
    tokens? (writtenText steps) = some (steps.flatMap WrittenStep.tokens) := by
  have read := tokens?_writtenText_append plain (show endsWord [] = true from rfl)
  rw [List.append_nil, tokens?_nil] at read
  simpa using read

/-! ## Reading selectors -/

theorem readTrack_part (fuel : Nat) (part : String) (relation : Relation) (rest : List Token) :
    readTrack (fuel + 4) (.current :: .dot :: .bare part :: .relation relation :: rest) =
      some (⟨[], [.names [part]], none⟩, .relation relation :: rest) := by
  simp [readTrack, readStart, continueTrack, readStep?, Track.add, Track.steps]

theorem readCondition_part (fuel : Nat) (part text : String) (rest : List Token) :
    readCondition (fuel + 1) (conditionTokens part text ++ rest) = some ([partIs part text], rest) := by
  have enough : 2 * (conditionTokens part text ++ rest).length + 2 =
      (2 * rest.length + 8) + 4 := by
    simp only [conditionTokens, List.length_append, List.length_cons, List.length_nil]
    omega
  rw [readCondition, enough]
  · rw [conditionTokens, List.cons_append, List.cons_append, List.cons_append, List.cons_append,
      readTrack_part]
    rfl
  · intro other impossible
    cases impossible

/-- A way in parentheses has to end with them, which a condition does not. -/
theorem readTrack_enclosed (fuel : Nat) (part : String) (relation : Relation) (rest : List Token) :
    readTrack (fuel + 6)
        (.openParenthesis :: .current :: .dot :: .bare part :: .relation relation :: rest) =
      none := by
  rw [readTrack, readStart, readTrack_part]
  rfl

theorem readConditions_parameter (fuel : Nat) (name : String) (location? : Option String)
    (rest : List Token) :
    readConditions (fuel + 3)
        (conditionTokens "name" name ++
          (match askedLocation? location? with
            | some location => .cross :: conditionTokens "in" location
            | none => []) ++ .closeParenthesis :: rest) =
      some (parameterConditions name location?, .closeParenthesis :: rest) := by
  cases asked : askedLocation? location? with
  | none =>
      rw [readConditions, List.append_nil, readCondition_part]
      simp [parameterConditions, asked]
  | some location =>
      rw [readConditions, List.append_assoc, readCondition_part]
      simp only [Option.bind_some, List.cons_append]
      rw [readConditions, readCondition_part]
      simp [parameterConditions, asked]

theorem readSelector?_written (free : step.isReserved = false) (rest : List Token) :
    readSelector? (step.tokens ++ rest) = some (step.selector, rest) := by
  cases step with
  | bare name =>
      have word : wordToken name.toList = .bare name := by
        rw [wordToken_toList, if_neg (by simpa [WrittenStep.isReserved] using free)]
      rw [WrittenStep.tokens, word]
      rfl
  | quoted name => rfl
  | item index => rfl
  | parameter name location? =>
      let conditions : List Token := conditionTokens "name" name ++
        (match askedLocation? location? with
          | some location => .cross :: conditionTokens "in" location
          | none => []) ++ .closeParenthesis :: .closeBracket :: rest
      have shape : (WrittenStep.parameter name location?).tokens ++ rest =
          .openBracket :: .question :: .openParenthesis :: conditions := by
        simp [WrittenStep.tokens, conditions]
      obtain ⟨behind, front⟩ : ∃ behind, conditions =
          .current :: .dot :: .bare "name" :: .relation .equal :: behind :=
        ⟨_, rfl⟩
      have fuel : 2 * (Token.openParenthesis :: conditions).length + 2 = (2 * behind.length + 7) + 5 := by
        simp only [front, List.length_cons]
        omega
      have enclosed : readTrack (2 * (Token.openParenthesis :: conditions).length + 2)
          (.openParenthesis :: conditions) = none := by
        rw [fuel, front]
        exact readTrack_enclosed (2 * behind.length + 6) "name" .equal behind
      have read : readConditions ((2 * behind.length + 7) + 3) conditions =
          some (parameterConditions name location?, .closeParenthesis :: .closeBracket :: rest) :=
        readConditions_parameter _ name location? _
      rw [shape, readSelector?, fuel, readConditions, readCondition, enclosed]
      simp only [read, Option.bind_some]
      rfl

/-! ## Reading addresses -/

theorem length_tokens_lt (step : WrittenStep) (steps : List WrittenStep) :
    (steps.flatMap WrittenStep.tokens).length <
      (step.tokens ++ steps.flatMap WrittenStep.tokens).length := by
  have some_token : 0 < step.tokens.length := by cases step <;> simp [WrittenStep.tokens]
  rw [List.length_append]
  omega

theorem readSelectors?_cons {token : Token} {tokens behind : List Token} {selector : Selector}
    {before stretch : Address} (selects : (token == .cross) = false)
    (read : readSelector? (token :: tokens) = some (selector, behind))
    (shorter : behind.length < tokens.length + 1) :
    readSelectors? before stretch (token :: tokens) =
      if token == .dot then readSelectors? (before ++ stretch) [selector] behind
      else readSelectors? before (stretch ++ [selector]) behind := by
  rw [readSelectors?, selects, read]
  simp only [Bool.false_eq_true, if_false, Option.bind_some, if_pos shorter]

theorem readSelectors?_written (free : ∀ step ∈ steps, step.isReserved = false)
    (before stretch : Address) :
    readSelectors? before stretch (steps.flatMap WrittenStep.tokens) =
      some (before ++ stretch ++ steps.map WrittenStep.selector) := by
  induction steps generalizing before stretch with
  | nil =>
      rw [List.flatMap_nil, readSelectors?, List.map_nil, List.append_nil]
  | cons step steps ih =>
      have later := ih fun other among => free other (List.mem_cons_of_mem _ among)
      have read := readSelector?_written (free step List.mem_cons_self)
        (steps.flatMap WrittenStep.tokens)
      have shorter := length_tokens_lt step steps
      rw [List.flatMap_cons, List.map_cons]
      cases step with
      | bare name =>
          refine (readSelectors?_cons rfl read shorter).trans ?_
          simp only [beq_self_eq_true, if_true, later, List.append_assoc, List.singleton_append]
      | quoted name | item index | parameter name location? =>
          refine (readSelectors?_cons rfl read shorter).trans ?_
          rw [if_neg (by decide), later, List.append_assoc, List.append_assoc,
            List.singleton_append, List.append_assoc]

theorem readSelectors?_reserved (reserved : ∃ step ∈ steps, step.isReserved = true)
    (before stretch : Address) :
    readSelectors? before stretch (steps.flatMap WrittenStep.tokens) = none := by
  induction steps generalizing before stretch with
  | nil => simp at reserved
  | cons step steps ih =>
      rw [List.flatMap_cons]
      cases here : step.isReserved with
      | true =>
          cases step with
          | bare name =>
              have word : wordToken name.toList = .reserved name := by
                rw [wordToken_toList, if_pos (by simpa [WrittenStep.isReserved] using here)]
              rw [WrittenStep.tokens, word]
              simp only [List.cons_append, List.nil_append]
              rw [readSelectors?, if_neg (by decide)]
              rfl
          | quoted name | item index | parameter name location? => cases here
      | false =>
          have later := ih (by simpa [here] using reserved)
          have read := readSelector?_written here (steps.flatMap WrittenStep.tokens)
          have shorter := length_tokens_lt step steps
          cases step with
          | bare name | quoted name | item index | parameter name location? =>
              exact (readSelectors?_cons rfl read shorter).trans (later ..)

theorem endlessInt_not_mem (steps : List WrittenStep) :
    (Token.root :: steps.flatMap WrittenStep.tokens).contains .endlessInt = false := by
  rw [Bool.eq_false_iff, ne_eq, List.contains_iff_mem, List.mem_cons, List.mem_flatMap]
  rintro (impossible | ⟨step, _, among⟩)
  · cases impossible
  · cases step with
    | bare name =>
        rw [WrittenStep.tokens, wordToken_toList] at among
        cases reserved : isReservedWord name <;> simp [reserved] at among
    | quoted name => simp [WrittenStep.tokens] at among
    | item index => simp [WrittenStep.tokens] at among
    | parameter name location? =>
        cases asked : askedLocation? location? <;>
          simp [WrittenStep.tokens, conditionTokens, asked] at among

theorem ofText_eq {text : String} (shape : text.toList = '$' :: writtenText steps)
    (plain : ∀ step ∈ steps, step.isPlain = true) :
    ofText text = (readSelectors? [] [] (steps.flatMap WrittenStep.tokens)).elim
      (.error (.refused (.malformed text))) .ok := by
  have tokenized : tokens? text.toList = some (.root :: steps.flatMap WrittenStep.tokens) := by
    rw [shape, tokens?_root, tokens?_writtenText plain, Option.map_some]
  have rooted : (text.toList.head? != some '$') = false := by
    rw [shape]
    rfl
  rw [ofText, rooted, tokenized]
  simp only [endlessInt_not_mem, Bool.false_eq_true, if_false, ofTokens?]
  cases readSelectors? [] [] (steps.flatMap WrittenStep.tokens) <;> rfl

/-- The text of steps behind a root is read as their selectors. -/
theorem ofText_written {text : String} (shape : text.toList = '$' :: writtenText steps)
    (plain : ∀ step ∈ steps, step.isPlain = true)
    (free : ∀ step ∈ steps, step.isReserved = false) :
    ofText text = .ok (steps.map WrittenStep.selector) := by
  rw [ofText_eq shape plain, readSelectors?_written free, List.append_nil, List.nil_append,
    Option.elim_some]

/-- A reserved word that is written bare makes the text unreadable. -/
theorem ofText_reserved {text : String} (shape : text.toList = '$' :: writtenText steps)
    (plain : ∀ step ∈ steps, step.isPlain = true)
    (reserved : ∃ step ∈ steps, step.isReserved = true) :
    ofText text = .error (.refused (.malformed text)) := by
  rw [ofText_eq shape plain, readSelectors?_reserved reserved, Option.elim_none]

/-- A position with too many digits makes the text unreadable. -/
theorem ofText_endless {text : String} {front back : List WrittenStep} {index : Nat}
    (shape : text.toList = '$' :: writtenText (front ++ .item index :: back))
    (plainFront : ∀ step ∈ front, step.isPlain = true)
    (plainBack : ∀ step ∈ back, step.isPlain = true)
    (long : Integer.isUnwritable (.ofNat index) = true) :
    ofText text = .error (.fault .badValue) := by
  have written : text.toList = '$' :: (writtenText front ++
      '[' :: (Nat.toDigits 10 index ++ ']' :: writtenText back)) := by
    rw [shape, writtenText, List.flatMap_append, List.flatMap_cons]
    simp [writtenText, WrittenStep.text, Address.item]
  have position := tokens?_position index (writtenText back)
  rw [isTooLong_toDigits, if_pos long, tokens?_writtenText plainBack, Option.map_some] at position
  have tokenized : tokens? text.toList = some (.root :: (front.flatMap WrittenStep.tokens ++
      .openBracket :: .endlessInt :: .closeBracket :: back.flatMap WrittenStep.tokens)) := by
    rw [written, tokens?_root, tokens?_writtenText_append plainFront rfl, position]
    rfl
  have rooted : (text.toList.head? != some '$') = false := by
    rw [shape]
    rfl
  rw [ofText, rooted, tokenized]
  simp

end ApiReview.Address
