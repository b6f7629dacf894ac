import ApiReview.Proofs.Path.HeadWords
import ApiReview.Proofs.Path.Placeholders

/-! Placeholders in converted segments. A segment is converted in parts around each
brace, since no word ends at a brace and lowering does not look through it. So every
placeholder is converted by itself, and it stays if it is in the new style already. -/

set_option autoImplicit false

namespace ApiReview.Segment

open ApiReview.Text

variable {test : Char → Bool} {brace : Char} {text rest : List Char} {style : CasingStyle}

/-! ## Signs -/

/-- A test that signs alone pass, none of which is a separator. -/
structure AsksSigns (test : Char → Bool) : Prop where
  mark : ∀ c, test c = true → Letter.isMark c = true
  inner : ∀ c, isSeparator c = true → test c = false

theorem asksSigns_isBrace : AsksSigns isBrace where
  mark := fun _ brace => (isMark_brace brace).1
  inner := by
    intro c separator
    simp only [isSeparator, Bool.or_eq_true, beq_iff_eq] at separator
    rcases separator with rfl | rfl <;> decide

theorem flatMap_filled (parts : List (List Char)) :
    (parts.filter fun part => !part.isEmpty).flatMap (·.filter test) =
      parts.flatMap (·.filter test) := by
  induction parts with
  | nil => rfl
  | cons part more ih => cases part <;> simp [ih]

section Signs

variable (signs : AsksSigns test)

include signs

theorem filter_lowerAfter (before text : List Char) :
    (lowerAfter before text).filter test = text.filter test := by
  induction text generalizing before with
  | nil => rfl
  | cons c rest ih =>
      obtain ⟨small, split, shape⟩ := lowerAfter_cons before c rest
      rw [split, List.filter_append, ih, List.filter_cons]
      cases hit : test c with
      | true =>
          have mark := signs.mark c hit
          have ascii := Letter.ascii_of_isMark mark
          have own : small = [c] := by
            rcases shape with rfl | ⟨sigma, -⟩
            · exact (Letter.case_of_isMark mark).1
            · omega
          rw [own, List.filter_cons_of_pos hit]
          rfl
      | false =>
          have nothing : small.filter test = [] := by
            rw [List.filter_eq_nil_iff]
            intro d inside found
            have mark := signs.mark d found
            rcases shape with rfl | ⟨-, sigma⟩
            · rw [Letter.eq_of_isMark_lower mark inside, found] at hit
              cases hit
            · rcases sigma d inside with rfl | rfl <;> exact absurd mark (by decide)
          rw [nothing]
          rfl

/-- A change of case of the first character that leaves signs alone keeps the signs of a text. -/
theorem filter_cased {change : Char → List Char}
    (own : ∀ c, Letter.isMark c = true → change c = [c])
    (only : ∀ c d, Letter.isMark d = true → d ∈ change c → c = d) (c : Char) (rest : List Char) :
    (change c ++ rest).filter test = (c :: rest).filter test := by
  rw [List.filter_append, List.filter_cons]
  cases hit : test c with
  | true =>
      rw [own c (signs.mark c hit), List.filter_cons_of_pos hit]
      rfl
  | false =>
      have nothing : (change c).filter test = [] := by
        rw [List.filter_eq_nil_iff]
        intro d inside found
        rw [only c d (signs.mark d found) inside, found] at hit
        cases hit
      rw [nothing]
      rfl

theorem filter_pieces (text : List Char) :
    (pieces text).flatMap (·.filter test) = text.filter test := by
  have kept : ∀ c ∈ text, (test c && !isSeparator c) = test c := by
    intro c _
    cases separator : isSeparator c with
    | true => rw [signs.inner c separator, Bool.false_and]
    | false => rw [Bool.not_false, Bool.and_true]
  calc (pieces text).flatMap (·.filter test)
      = (pieces text).flatten.filter test := by rw [List.filter_flatten, List.flatMap_def]
    _ = text.filter fun c => test c && !isSeparator c := by
        rw [flatten_pieces, List.filter_filter]
    _ = text.filter test := List.filter_congr kept

end Signs

/-! ## Joined words -/

def raised : List Char → List Char
  | [] => []
  | c :: rest => Letter.title c ++ rest

def gap : CasingStyle → List Char
  | .snake => ['_']
  | .kebab => ['-']
  | _ => []

def firstWord (style : CasingStyle) (word : List Char) : List Char :=
  if style = .pascal then raised (lowerChars word) else lowerChars word

def nextWord (style : CasingStyle) (word : List Char) : List Char :=
  if style = .camel ∨ style = .pascal then raised (lowerChars word) else lowerChars word

/-- How further words are written, each behind a gap. -/
def nextWords (style : CasingStyle) (words : List (List Char)) : List Char :=
  words.flatMap fun word => gap style ++ nextWord style word

def joinChars (style : CasingStyle) : List (List Char) → List Char
  | [] => []
  | word :: more => firstWord style word ++ nextWords style more

theorem toList_lower (word : List Char) : (lower (String.ofList word)).toList = lowerChars word := by
  rw [lower, String.toList_ofList, String.toList_ofList]

theorem toList_capitalize_lower (word : List Char) :
    (capitalize (lower (String.ofList word))).toList = raised (lowerChars word) := by
  have lowered (c : Char) (among : c ∈ lowerChars word) : Letter.lower c = [c] :=
    lower_of_mem_lowerAfter among
  rw [capitalize, String.toList_ofList, toList_lower]
  cases shape : lowerChars word with
  | nil => rfl
  | cons c rest =>
      rw [shape] at lowered
      rw [capitalizeChars, raised, lowerAfter_of_lowered fun d among =>
        lowered d (List.mem_cons_of_mem _ among)]

theorem intercalate_cons (separator first : List Char) (more : List (List Char)) :
    separator.intercalate (first :: more) = first ++ more.flatMap (separator ++ ·) := by
  induction more generalizing first with
  | nil => simp [List.intercalate]
  | cons second more ih =>
      have further := ih second
      rw [List.intercalate] at further
      rw [List.intercalate, List.intersperse_cons_cons, List.flatten_cons, List.flatten_cons, further,
        List.flatMap_cons, List.append_assoc]

/-- A converted segment is made of its words. -/
theorem toList_convert (segment : String) (style : CasingStyle) :
    (convert segment style).toList = joinChars style (wordChars segment.toList) := by
  unfold convert words join
  cases wordChars segment.toList with
  | nil => cases style <;> rfl
  | cons first more =>
      cases style <;>
        simp [joinChars, firstWord, nextWords, nextWord, gap, String.toList_intercalate,
          String.toList_join, intercalate_cons, toList_lower, toList_capitalize_lower,
          List.flatMap_map]

/-! ## Words around a brace -/

section Braces

variable (isOne : isBrace brace = true)

include isOne

theorem inner_brace : isSeparator brace = false ∧ Letter.isAsciiUpper brace = false ∧
    Letter.isAsciiLower brace = false ∧ Letter.isAsciiDigit brace = false := by
  simp only [isBrace, Bool.or_eq_true, beq_iff_eq] at isOne
  rcases isOne with rfl | rfl <;> decide

/-- Whether there is a cut in front of a brace is seen without what is from the brace on. -/
theorem isBoundary_append (c : Char) (text rest : List Char) :
    isBoundary c (text ++ brace :: rest) = isBoundary c text := by
  obtain ⟨-, upper, lower, -⟩ := inner_brace isOne
  match text with
  | [] => simp [isBoundary, upper]
  | [next] => simp [isBoundary, lower]
  | next :: after :: more => rfl

/-- No cut is made at a brace. -/
theorem pieces_brace {head : List Char} {tail : List (List Char)} (behind : pieces rest = head :: tail)
    (text : List Char) : ∃ before last, pieces text = before ++ [last] ∧
      pieces (text ++ brace :: rest) = before ++ (last ++ brace :: head) :: tail := by
  induction text with
  | nil =>
      obtain ⟨inner, upper, lower, digit⟩ := inner_brace isOne
      have uncut : isBoundary brace rest = false := by
        cases rest with
        | nil => rfl
        | cons next more => simp [isBoundary, upper, lower, digit]
      refine ⟨[], [], rfl, ?_⟩
      rw [List.nil_append, pieces, inner, uncut, behind]
      rfl
  | cons c more ih =>
      obtain ⟨before, last, shape, whole⟩ := ih
      rw [List.cons_append, pieces, pieces, isBoundary_append isOne, shape, whole]
      split
      · exact ⟨[] :: before, last, rfl, rfl⟩
      · split
        · exact ⟨[c] :: before, last, rfl, rfl⟩
        · cases before with
          | nil => exact ⟨[], c :: last, rfl, rfl⟩
          | cons first others => exact ⟨(c :: first) :: others, last, rfl, rfl⟩

theorem lowerChars_brace (text rest : List Char) :
    lowerChars (text ++ brace :: rest) = lowerChars text ++ brace :: lowerChars rest :=
  lowerAfter_append (isMark_brace isOne).2 [] text rest

theorem raised_brace (text rest : List Char) :
    raised (text ++ brace :: rest) = raised text ++ brace :: rest := by
  cases text with
  | nil =>
      have own := (Letter.case_of_isMark (isMark_brace isOne).1).2.2
      simp [raised, own]
  | cons c more => simp [raised]

theorem firstWord_brace (style : CasingStyle) (text rest : List Char) :
    firstWord style (text ++ brace :: rest) = firstWord style text ++ brace :: lowerChars rest := by
  rw [firstWord, firstWord, lowerChars_brace isOne, raised_brace isOne]
  split <;> rfl

theorem nextWord_brace (style : CasingStyle) (text rest : List Char) :
    nextWord style (text ++ brace :: rest) = nextWord style text ++ brace :: lowerChars rest := by
  rw [nextWord, nextWord, lowerChars_brace isOne, raised_brace isOne]
  split <;> rfl

theorem joinChars_brace (style : CasingStyle) (before after : List (List Char))
    (last head : List Char) : joinChars style (before ++ (last ++ brace :: head) :: after) =
      joinChars style (before ++ [last]) ++ brace :: (lowerChars head ++ nextWords style after) := by
  cases before with
  | nil => simp [joinChars, nextWords, firstWord_brace isOne]
  | cons first others => simp [joinChars, nextWords, nextWord_brace isOne]

end Braces

/-! ## Conversion in parts -/

/-- The words of a text, the last one also if it is empty. -/
def frontWords (text : List Char) : List (List Char) :=
  ((pieces text).dropLast.filter fun piece => !piece.isEmpty) ++ [(pieces text).getLastD []]

def convertFront (style : CasingStyle) (text : List Char) : List Char :=
  joinChars style (frontWords text)

def convertBack (style : CasingStyle) (text : List Char) : List Char :=
  lowerChars ((pieces text).headD []) ++
    nextWords style ((pieces text).tail.filter fun piece => !piece.isEmpty)

theorem joinChars_cut (style : CasingStyle) (isOne : isBrace brace = true) (text rest : List Char) :
    joinChars style (wordChars (text ++ brace :: rest)) =
      convertFront style text ++ brace :: convertBack style rest := by
  obtain ⟨head, tail, behind⟩ := List.exists_cons_of_ne_nil (pieces_ne_nil rest)
  obtain ⟨before, last, shape, whole⟩ := pieces_brace isOne behind text
  have filled : (last ++ brace :: head).isEmpty = false := by simp
  rw [wordChars, whole, List.filter_append, List.filter_cons_of_pos (by rw [filled]; rfl),
    joinChars_brace isOne, convertFront, frontWords, convertBack, shape, behind]
  simp

section Signs

variable (signs : AsksSigns test)

include signs

theorem filter_raised (text : List Char) : (raised text).filter test = text.filter test := by
  cases text with
  | nil => rfl
  | cons c rest =>
      exact filter_cased signs (fun _ mark => (Letter.case_of_isMark mark).2.2)
        (fun _ _ mark => Letter.eq_of_isMark_title mark) c rest

theorem filter_gap (style : CasingStyle) : (gap style).filter test = [] := by
  rw [List.filter_eq_nil_iff]
  intro c inside
  rw [Bool.not_eq_true]
  refine signs.inner c ?_
  cases style <;> simp_all [gap, isSeparator]

theorem filter_nextWords (style : CasingStyle) (words : List (List Char)) :
    (nextWords style words).filter test = words.flatMap (·.filter test) := by
  rw [nextWords, List.filter_flatMap]
  refine List.flatMap_congr fun word _ => ?_
  rw [List.filter_append, filter_gap signs, List.nil_append, nextWord]
  split
  · rw [filter_raised signs, lowerChars, filter_lowerAfter signs]
  · rw [lowerChars, filter_lowerAfter signs]

/-- A join of words has the signs of the words. -/
theorem filter_joinChars (style : CasingStyle) (words : List (List Char)) :
    (joinChars style words).filter test = words.flatMap (·.filter test) := by
  cases words with
  | nil => rfl
  | cons word more =>
      rw [joinChars, List.filter_append, filter_nextWords signs, List.flatMap_cons, firstWord]
      split
      · rw [filter_raised signs, lowerChars, filter_lowerAfter signs]
      · rw [lowerChars, filter_lowerAfter signs]

/-- A converted segment has the signs of the segment. -/
theorem filter_convert (segment : String) (style : CasingStyle) :
    (convert segment style).toList.filter test = segment.toList.filter test := by
  rw [toList_convert, filter_joinChars signs, wordChars, flatMap_filled, filter_pieces signs]

theorem filter_convertFront (style : CasingStyle) (text : List Char) :
    (convertFront style text).filter test = text.filter test := by
  obtain ⟨before, last, shape⟩ : ∃ before last, pieces text = before ++ [last] :=
    ⟨_, _, (List.dropLast_append_getLast (pieces_ne_nil text)).symm⟩
  have whole := filter_pieces signs text
  rw [shape, List.flatMap_append] at whole
  rw [convertFront, frontWords, filter_joinChars signs, shape, List.dropLast_concat,
    List.flatMap_append, flatMap_filled, ← whole]
  simp

theorem filter_convertBack (style : CasingStyle) (text : List Char) :
    (convertBack style text).filter test = text.filter test := by
  obtain ⟨head, tail, shape⟩ := List.exists_cons_of_ne_nil (pieces_ne_nil text)
  have whole := filter_pieces signs text
  rw [shape, List.flatMap_cons] at whole
  rw [convertBack, List.filter_append, filter_nextWords signs, shape, flatMap_filled, lowerChars,
    filter_lowerAfter signs, ← whole]
  rfl

end Signs

/-- Segments are converted in parts around their braces. -/
theorem recasts_convert (style : CasingStyle) :
    Recasts (fun text => joinChars style (wordChars text)) (convertFront style)
      (convertBack style) where
  cut := fun text _ rest isOne => joinChars_cut style isOne text rest
  start := by cases style <;> rfl
  finish := by cases style <;> rfl
  braces := by
    intro text
    refine ⟨?_, filter_convertFront asksSigns_isBrace style text,
      filter_convertBack asksSigns_isBrace style text⟩
    have whole := filter_convert asksSigns_isBrace (String.ofList text) style
    rwa [toList_convert, String.toList_ofList] at whole

/-- The placeholders in a converted segment are those of the segment, each converted by itself. -/
theorem placeholders_convert (segment : String) (style : CasingStyle) :
    placeholders (convert segment style) = (placeholders segment).map (convert · style) := by
  rw [placeholders, placeholders, toList_convert, (recasts_convert style).placeholdersAfter_rewrite,
    List.map_map, List.map_map]
  refine List.map_congr_left fun name _ => ?_
  rw [Function.comp_apply, Function.comp_apply, ← String.toList_inj, toList_convert,
    String.toList_ofList, String.toList_ofList]

/-- Nothing is left of a segment if it has no words, and only then. -/
theorem convert_eq_empty_iff (segment : String) (style : CasingStyle) :
    convert segment style = "" ↔ words segment = [] := by
  rw [← String.toList_eq_nil_iff, toList_convert, words, List.map_eq_nil_iff]
  cases shape : wordChars segment.toList with
  | nil => simp [joinChars]
  | cons word more =>
      have filled : word.isEmpty = false := by
        have among : word ∈ wordChars segment.toList := shape ▸ List.mem_cons_self
        simpa using (List.mem_filter.mp among).2
      obtain ⟨c, rest, rfl⟩ := List.exists_cons_of_ne_nil (List.isEmpty_eq_false_iff.mp filled)
      have lowered : lowerChars (c :: rest) ≠ [] := (lowerAfter_filled c rest).2
      have written : firstWord style (c :: rest) ≠ [] := by
        rw [firstWord]
        split
        · obtain ⟨d, behind, split⟩ := List.exists_cons_of_ne_nil lowered
          rw [split, raised]
          exact List.append_ne_nil_of_left_ne_nil (Letter.title_ne_nil d) _
        · exact lowered
      simp [joinChars, written]

end ApiReview.Segment
