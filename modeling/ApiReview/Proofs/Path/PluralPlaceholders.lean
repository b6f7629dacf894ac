import ApiReview.Proofs.Path.ConvertedPlaceholders
import ApiReview.Proofs.Path.PluralSegments

/-! Placeholders in plural segments. Making a plural changes a word behind its last
brace only, so that the placeholders of a plural segment are those of the segment with
its head word in lower case, up to a leading capital. -/

set_option autoImplicit false

namespace ApiReview

open ApiReview.Text ApiReview.WordEnding

variable {text old behind : List Char} {form : Form} {word segment : String}
  {test : Char → Bool}

/-! ## Words and their plurals -/

/-- A brace passes no test for the characters that a plural rule takes away. -/
theorem plain_of_fits {rule : Rule} {ending : Form} (listed : rule ∈ pluralRules)
    (own : ending ∈ rule.endings) (fits : Fits ending old) : IsPlain old := by
  have tested : (pluralRules.all fun rule => rule.endings.all fun ending => ending.all fun test =>
      !test.accepts '\x7b' && !test.accepts '\x7d') = true := by decide +kernel
  have rejects := List.all_eq_true.mp (List.all_eq_true.mp (List.all_eq_true.mp tested rule listed)
    ending own)
  intro c among
  obtain ⟨test, asked, accepted⟩ : ∃ test ∈ ending, test.accepts c = true := by
    obtain ⟨index, here, rfl⟩ := List.mem_iff_getElem.mp among
    have within : index < ending.length := fits.length_eq ▸ here
    exact ⟨_, List.getElem_mem within, fits.get within here⟩
  rw [Bool.eq_false_iff]
  intro brace
  have none_passes := rejects test asked
  simp only [isBrace, Bool.or_eq_true, beq_iff_eq] at brace
  rcases brace with rfl | rfl <;> simp [accepted] at none_passes

theorem plain_of_small (small : ∀ c ∈ text, Letter.isAsciiLower c = true) : IsPlain text := by
  intro c among
  rw [Bool.eq_false_iff]
  intro brace
  have mark := (isMark_brace brace).1
  rw [Letter.not_isMark_of_isAsciiLower (small c among)] at mark
  cases mark

/-- A word and its plural differ behind the last brace only. -/
theorem LowerWord.pluralize_split (word : String) : ∃ kept old new,
    word.toList = kept ++ old ∧ (pluralize word).toList = kept ++ new ∧ IsPlain old ∧ IsPlain new := by
  have itself : ∃ kept old new, word.toList = kept ++ old ∧ word.toList = kept ++ new ∧
      IsPlain old ∧ IsPlain new :=
    ⟨word.toList, [], [], by simp, by simp, by simp [IsPlain], by simp [IsPlain]⟩
  rw [pluralize]
  split
  · exact itself
  · split
    · rename_i plural found
      obtain ⟨small, others, -⟩ := small_irregularNouns (Lexicon.mem_of_irregularPlural? found)
      exact ⟨[], word.toList, plural.toList, rfl, rfl, plain_of_small small, plain_of_small others⟩
    · split
      · exact itself
      · split
        · exact itself
        · rw [WordEnding.pluralize]
          split
          · exact itself
          · rw [String.toList_ofList]
            cases found : pluralRules.findSome? (·.inflect? word.toList) with
            | none =>
                rw [Option.getD_none, addS]
                split
                · rename_i ends
                  obtain ⟨before, shape⟩ := List.getLast?_eq_some_iff.mp (eq_of_beq ends)
                  exact ⟨before, ['\n'], ['s', '\n', 's'], shape, by rw [shape, List.dropLast_concat],
                    by simp [IsPlain, isBrace], by simp [IsPlain, isBrace]⟩
                · exact ⟨word.toList, [], ['s'], by simp, rfl, by simp [IsPlain],
                    by simp [IsPlain, isBrace]⟩
            | some result =>
                obtain ⟨rule, listed, read⟩ := List.exists_of_findSome?_eq_some found
                obtain ⟨stem, ending, front, kept, old, tail, stands, rfl⟩ := Rule.inflect?_ok read
                have ends := stands.atEnd (long_replacement rule listed).1
                have plainTail : IsPlain tail := by
                  rcases isWordEnd_iff.mp ends with rfl | rfl <;> simp [IsPlain, isBrace]
                have small := (small_replacement (List.mem_append_left _ listed)).1
                refine ⟨front ++ kept, old ++ tail, rule.replacement.toList ++ tail, ?_, ?_, ?_, ?_⟩
                · rw [stands.split, List.append_assoc]
                · rw [Option.getD_some, List.append_assoc]
                · exact List.forall_mem_append.mpr
                    ⟨plain_of_fits listed stands.listed.2 stands.old, plainTail⟩
                · exact List.forall_mem_append.mpr ⟨plain_of_small small, plainTail⟩

/-! ## Segments and their plurals -/

theorem filter_matchCapital (signs : Segment.AsksSigns test) (word form : String) :
    (matchCapital word form).toList.filter test = form.toList.filter test := by
  rw [matchCapital]
  split
  · split
    · rfl
    · rename_i c rest shape
      rw [String.toList_ofList, shape]
      exact Segment.filter_cased signs (fun _ mark => (Letter.case_of_isMark mark).2.1)
        (fun _ _ mark => Letter.eq_of_isMark_upper mark) c rest
  · rfl

/-- A form that takes over a capital does so at its start. -/
theorem matchCapital_append (word : String) {kept : List Char} (filled : kept ≠ []) :
    ∃ start, ∀ form : String, ∀ rest, form.toList = kept ++ rest →
      (matchCapital word form).toList = start ++ rest := by
  obtain ⟨c, more, rfl⟩ := List.exists_cons_of_ne_nil filled
  cases capital : startsUpper word.toList with
  | true =>
      refine ⟨Letter.upper c ++ more, fun form rest shape => ?_⟩
      rw [matchCapital, if_pos capital, shape, List.append_assoc]
      simp only [List.cons_append, String.toList_ofList]
  | false =>
      refine ⟨c :: more, fun form rest shape => ?_⟩
      rw [matchCapital, capital, ← shape]
      rfl

/-- Behind any text, a word and its plural close the same placeholders. -/
theorem placeholdersAfter_pluralize (name? : Option (List Char)) (front : List Char)
    (word small : String) :
    placeholdersAfter name? (front ++ (matchCapital word (LowerWord.pluralize small)).toList) =
      placeholdersAfter name? (front ++ (matchCapital word small).toList) := by
  obtain ⟨kept, old, new, before, after, plainOld, plainNew⟩ := LowerWord.pluralize_split small
  by_cases empty : kept = []
  · have plain {form : String} {chars : List Char} (shape : form.toList = kept ++ chars)
        (isPlain : IsPlain chars) : IsPlain (matchCapital word form).toList := by
      rw [isPlain_iff, filter_matchCapital Segment.asksSigns_isBrace, shape, empty, List.nil_append]
      exact isPlain_iff.mp isPlain
    rw [placeholdersAfter_append_plain (plain after plainNew),
      placeholdersAfter_append_plain (plain before plainOld)]
  · obtain ⟨start, split⟩ := matchCapital_append word empty
    rw [split _ _ after, split _ _ before, ← List.append_assoc, ← List.append_assoc,
      placeholdersAfter_append_plain plainNew, placeholdersAfter_append_plain plainOld]

namespace Segment

/-- A segment with its head word in lower case, up to a leading capital. -/
def recased (segment : String) : String := inflectHead (inflected fun small => small) segment

/-- The placeholders in the plural of a segment are those in the recased segment. -/
theorem placeholders_pluralize (segment : String) :
    placeholders (pluralize .standard segment) = placeholders (recased segment) := by
  rcases exists_isHead segment.toList with separators | ⟨front, chars, seps, written, head⟩
  · rw [pluralize_standard, recased, (inflectHead_of_separators separators _).2,
      (inflectHead_of_separators separators _).2]
  · have filled := head.ofList_ne_empty
    have plain : IsPlain seps := by
      intro c among
      rw [Bool.eq_false_iff]
      intro brace
      have clash := (inner_brace brace).1
      rw [head.separators c among] at clash
      cases clash
    rw [placeholders, placeholders, pluralize_standard, recased, head.inflectHead_eq written,
      head.inflectHead_eq written, inflected_eq filled, inflected_eq filled,
      placeholdersAfter_append_plain plain, placeholdersAfter_append_plain plain,
      placeholdersAfter_pluralize]

/-- A recased segment has the braces of the segment. -/
theorem filter_recased (segment : String) :
    (recased segment).toList.filter isBrace = segment.toList.filter isBrace := by
  rcases exists_isHead segment.toList with separators | ⟨front, chars, seps, written, head⟩
  · rw [recased, (inflectHead_of_separators separators _).2]
  · have filled := head.ofList_ne_empty
    rw [recased, head.inflectHead_eq written, inflected_eq filled, written]
    simp only [List.filter_append, filter_matchCapital asksSigns_isBrace, toList_lower, lowerChars,
      filter_lowerAfter asksSigns_isBrace]

end Segment

end ApiReview
