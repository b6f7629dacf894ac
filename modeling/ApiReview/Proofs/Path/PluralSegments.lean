import ApiReview.Proofs.Path.HeadWords
import ApiReview.Proofs.Word.Spelling

/-! Segments in the plural. The plural of the head word takes the place of the head
word, so that the new segment has it as its last word. A segment that is taken for a
singular is still taken for one in the plural if and only if that plural is settled. -/

set_option autoImplicit false

namespace ApiReview

open ApiReview.Text ApiReview.WordEnding

variable {front seps : List Char} {word segment form : String}

/-! ## Plurals of words -/

theorem matchCapital_shape (filled : form ≠ "")
    (returns : startsUpper word.toList = true → ∀ c, form.toList.head? = some c → Letter.Returns c) :
    ∃ small start behind, form.toList = small :: behind ∧
      (matchCapital word form).toList = start :: behind ∧
      (startsUpper word.toList = true → Letter.upper small = [start]) ∧
      (startsUpper word.toList = false → start = small) := by
  obtain ⟨small, behind, shape⟩ := List.exists_cons_of_ne_nil (mt String.toList_eq_nil_iff.mp filled)
  cases capital : startsUpper word.toList with
  | true =>
      obtain ⟨start, raised, -⟩ := returns capital small (by rw [shape, List.head?_cons])
      refine ⟨small, start, behind, shape, ?_, fun _ => raised, by simp⟩
      rw [matchCapital, if_pos capital, shape]
      simp only [raised, String.toList_ofList, List.singleton_append]
  | false =>
      refine ⟨small, small, behind, shape, ?_, by simp, fun _ => rfl⟩
      rw [matchCapital, capital, ← shape]
      rfl

theorem inflected_eq (filled : word ≠ "") (inflect : String → String) :
    inflected inflect word = matchCapital word (inflect (lower word)) := by
  have some_character : ¬ word.isEmpty = true := by simpa using filled
  rw [inflected, if_neg some_character]

section Flagged

variable (filled : word ≠ "")
  (flagged : lower (inflected LowerWord.singularize word) = lower word)

include filled flagged

theorem returns_of_flagged (capital : startsUpper word.toList = true) :
    ∀ c, (LowerWord.pluralize (lower word)).toList.head? = some c → Letter.Returns c := by
  rw [inflected_eq filled] at flagged
  have own := returns_of_lower_matchCapital filled (LowerWord.spelled_singularize _) capital flagged
  intro c starts
  rcases (LowerWord.spelled_pluralize (lower_filled filled)).1.start c starts with kept | returns
  · exact own c kept
  · exact returns

theorem lower_pluralized : lower (inflected LowerWord.pluralize word) =
    LowerWord.pluralize (lower word) := by
  rw [inflected_eq filled]
  exact lower_matchCapital (lowered_of_spelled (LowerWord.spelled_pluralize (lower_filled filled)).1)
    (returns_of_flagged filled flagged)

theorem pluralized_shape : ∃ small start behind,
    (LowerWord.pluralize (lower word)).toList = small :: behind ∧
      (inflected LowerWord.pluralize word).toList = start :: behind ∧
      (startsUpper word.toList = true → Letter.upper small = [start]) ∧
      (startsUpper word.toList = false → start = small) := by
  rw [inflected_eq filled]
  refine matchCapital_shape ?_ (returns_of_flagged filled flagged)
  exact mt String.toList_eq_nil_iff.mpr (LowerWord.spelled_pluralize (lower_filled filled)).2.filled

/-- A plural is made singular from its lower case form. -/
theorem lower_singularized : lower (inflected LowerWord.singularize
    (inflected LowerWord.pluralize word)) =
      LowerWord.singularize (LowerWord.pluralize (lower word)) := by
  have lowered := lowered_of_spelled (LowerWord.spelled_pluralize (lower_filled filled)).1
  have again := LowerWord.spelled_singularize (LowerWord.pluralize (lower word))
  obtain ⟨small, start, behind, shape, written, large, same⟩ := pluralized_shape filled flagged
  have some_character : inflected LowerWord.pluralize word ≠ "" := by
    rw [ne_eq, ← String.toList_eq_nil_iff, written]
    exact List.cons_ne_nil _ _
  rw [inflected_eq some_character, lower_pluralized filled flagged]
  refine lower_matchCapital ?_ fun capital c starts => ?_
  · intro c among
    rcases again.among c among with kept | letter
    · exact lowered c kept
    · exact Letter.lower_of_isAsciiLower letter
  · rcases again.start c starts with kept | returns
    · cases wordCapital : startsUpper word.toList with
      | true => exact returns_of_flagged filled flagged wordCapital c kept
      | false =>
          -- a capital that is not raised and not lowered stays as it is
          rw [shape, List.head?_cons] at kept
          rw [written, same wordCapital, startsUpper, List.head?_cons, Option.any_some,
            Option.some.inj kept] at capital
          have own := lowered small (shape ▸ List.mem_cons_self)
          rw [Option.some.inj kept] at own
          exact ⟨c, Letter.upper_of_isUpper capital, own⟩
    · exact returns

end Flagged

/-! ## Head words in the plural -/

theorem ascii_of_isAsciiUpper {c : Char} (capital : Letter.isAsciiUpper c = true) :
    Letter.isUpper c = true ∧ ∃ small, Letter.lower c = [small] ∧ Letter.isAsciiLower small = true := by
  have bounds := Letter.toNat_bounds_of_isAsciiUpper capital
  have ascii : c.toNat < 128 := by omega
  refine ⟨by rw [Letter.isUpper, if_pos ascii, capital], ?_⟩
  have pair := (Letter.isPair_ascii ascii).1 capital
  simp only [Letter.isPair, Bool.and_eq_true, beq_iff_eq] at pair
  exact ⟨_, pair.2.1, pair.1.2⟩

namespace Segment

theorem isMark_separator {c : Char} (separator : isSeparator c = true) : Letter.isMark c = true := by
  simp only [isSeparator, Bool.or_eq_true, beq_iff_eq] at separator
  rcases separator with rfl | rfl <;> decide

/-- The head word in the plural is the head word of the new segment. -/
theorem IsHead.pluralized (head : IsHead front word.toList seps)
    (flagged : lower (inflected LowerWord.singularize word) = lower word) :
    IsHead front (inflected LowerWord.pluralize word).toList seps := by
  have filled : word ≠ "" := mt String.toList_eq_nil_iff.mpr head.filled
  obtain ⟨spelled, opens⟩ := LowerWord.spelled_pluralize (lower_filled filled)
  obtain ⟨small, start, behind, shape, written, large, -⟩ := pluralized_shape filled flagged
  have lowered := lowered_of_spelled spelled
  rw [shape] at lowered
  rw [written]
  refine head.replaced ?_ ?_ ?_ ?_
  · intro c among
    rw [Bool.eq_false_iff]
    intro separator
    rw [← written, inflected_eq filled] at among
    have clash := head.inner c (mem_of_mem_matchCapital (isMark_separator separator) spelled among)
    rw [separator] at clash
    cases clash
  · exact fun c among => Letter.isAsciiUpper_of_lowered (lowered c (List.mem_cons_of_mem _ among))
  · intro first rest split capital
    obtain ⟨upper, letter, lowers, isSmall⟩ := ascii_of_isAsciiUpper capital
    have begins : (lower word).toList[0]? = some letter := by
      rw [lower, String.toList_ofList, lowerChars, split, lowerAfter_start, lowers]
      rfl
    have opened := opens.small 0 (by decide) letter begins isSmall
    rw [shape, List.getElem?_cons_zero, Option.any_some] at opened
    have raised := large (by rw [startsUpper, split, List.head?_cons, Option.any_some, upper])
    have bounds := Letter.toNat_bounds_of_isAsciiLower opened
    have pair := (Letter.isPair_ascii (by omega)).2 opened
    simp only [Letter.isPair, Bool.and_eq_true, beq_iff_eq, raised, List.singleton_inj] at pair
    exact pair.2.2 ▸ pair.1.1
  · intro first next rest split capital follows
    obtain ⟨-, letter, lowers, -⟩ := ascii_of_isAsciiUpper capital
    have second : (lower word).toList[1]? = some next := by
      obtain ⟨after, cut, kind⟩ := lowerAfter_cons [first] next rest
      have own : after = [next] := by
        rcases kind with rfl | ⟨sigma, -⟩
        · exact Letter.lower_of_isAsciiLower follows
        · have bounds := Letter.toNat_bounds_of_isAsciiLower follows
          omega
      rw [lower, String.toList_ofList, lowerChars, split, lowerAfter_start, lowers, cut, own]
      rfl
    have opened := opens.small 1 (by decide) next second follows
    rwa [shape, List.getElem?_cons_succ, ← List.head?_eq_getElem?] at opened

/-! ## Segments in the plural -/

theorem isSingular_standard (segment : String) : isSingular .standard segment =
    (lower (inflected LowerWord.singularize (lastWord segment)) == lower (lastWord segment)) := rfl

theorem pluralize_standard (segment : String) : pluralize .standard segment =
    inflectHead (inflected LowerWord.pluralize) segment := rfl

/-- A segment that is taken for a singular is taken for one in the plural too, if it has no words
or if the plural of its head word is settled. -/
theorem isSingular_pluralize (flagged : isSingular .standard segment = true) :
    isSingular .standard (pluralize .standard segment) = ((words segment).isEmpty ||
      LowerWord.isSettled (LowerWord.pluralize (lower (lastWord segment)))) := by
  rcases exists_isHead segment.toList with separators | ⟨front, chars, seps, written, head⟩
  · obtain ⟨noWords, same⟩ := inflectHead_of_separators separators (inflected LowerWord.pluralize)
    rw [pluralize_standard, same, flagged, noWords]
    rfl
  · obtain ⟨word, rfl⟩ : ∃ word : String, word.toList = chars := ⟨.ofList chars, by simp⟩
    have last := head.lastWord_eq written
    rw [String.ofList_toList] at last
    rw [isSingular_standard, last, beq_iff_eq] at flagged
    have filled : word ≠ "" := mt String.toList_eq_nil_iff.mpr head.filled
    have someWords : (words segment).isEmpty = false := by
      rw [List.isEmpty_eq_false_iff]
      intro none_left
      have found := head.getLast?_words written
      rw [none_left] at found
      cases found
    have renamed := head.inflectHead_eq written (inflected LowerWord.pluralize)
    rw [String.ofList_toList] at renamed
    have newLast := (head.pluralized flagged).lastWord_eq renamed
    rw [String.ofList_toList] at newLast
    rw [pluralize_standard, isSingular_standard, newLast, lower_singularized filled flagged,
      lower_pluralized filled flagged, someWords, last, Bool.false_or, Bool.eq_iff_iff, beq_iff_eq]
    exact LowerWord.singularize_pluralize_iff (lower_filled filled)

/-- A sign in a segment with an inflected head word was in the segment. -/
theorem mem_of_mem_inflectHead {d : Char} {inflect : String → String} (mark : Letter.isMark d = true)
    (spelled : ∀ word, word ≠ "" → Spelled word.toList (inflect word).toList)
    (among : d ∈ (inflectHead (inflected inflect) segment).toList) : d ∈ segment.toList := by
  rcases exists_isHead segment.toList with separators | ⟨front, chars, seps, written, head⟩
  · rwa [(inflectHead_of_separators separators _).2] at among
  · have filled := head.ofList_ne_empty
    rw [head.inflectHead_eq written, inflected_eq filled] at among
    rw [written]
    simp only [List.mem_append] at among ⊢
    rcases among with (here | inside) | behind
    · exact .inl (.inl here)
    · have kept := mem_of_mem_matchCapital mark (spelled _ (lower_filled filled)) inside
      rw [String.toList_ofList] at kept
      exact .inl (.inr kept)
    · exact .inr behind

theorem mem_of_mem_pluralize {d : Char} (mark : Letter.isMark d = true)
    (among : d ∈ (pluralize .standard segment).toList) : d ∈ segment.toList :=
  mem_of_mem_inflectHead mark (fun _ filled => (LowerWord.spelled_pluralize filled).1) among

theorem mem_of_mem_singularize {d : Char} (mark : Letter.isMark d = true)
    (among : d ∈ (singularize .standard segment).toList) : d ∈ segment.toList :=
  mem_of_mem_inflectHead mark (fun word _ => LowerWord.spelled_singularize word) among

theorem pluralize_filled (filled : segment ≠ "") (flagged : isSingular .standard segment = true) :
    pluralize .standard segment ≠ "" := by
  rcases exists_isHead segment.toList with separators | ⟨front, chars, seps, written, head⟩
  · rwa [pluralize_standard, (inflectHead_of_separators separators _).2]
  · have some_character := head.ofList_ne_empty
    rw [isSingular_standard, head.lastWord_eq written, beq_iff_eq] at flagged
    obtain ⟨small, start, behind, -, shape, -⟩ := pluralized_shape some_character flagged
    rw [ne_eq, ← String.toList_eq_nil_iff, pluralize_standard, head.inflectHead_eq written, shape]
    simp

end Segment

end ApiReview
