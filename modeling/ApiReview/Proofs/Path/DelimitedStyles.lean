import ApiReview.Proofs.Path.HeadWords

/-! Segments in the styles that put a mark between words. A word in lower case holds
neither a separator nor a capital of ASCII, so the marks are the only cuts between
such words: a segment in one of these styles has the words that it was made of, in
lower case, and every other style makes the same of it as of the first segment. -/

set_option autoImplicit false

namespace ApiReview

open ApiReview.Text

def CasingStyle.mark? : CasingStyle → Option Char
  | .snake => some '_'
  | .kebab => some '-'
  | .camel | .pascal | .lower => none

namespace Segment

variable {word rest : List Char} {mark : Char} {style : CasingStyle}

/-! ## Words between marks -/

/-- A text in which no word ends, and none starts behind a letter. -/
structure IsUncut (word : List Char) : Prop where
  inner : ∀ c ∈ word, isSeparator c = false
  small : ∀ c ∈ word, Letter.isAsciiUpper c = false

theorem isBoundary_of_head (c : Char)
    (small : ∀ next ∈ rest.head?, Letter.isAsciiUpper next = false) :
    isBoundary c rest = false := by
  cases rest with
  | nil => rfl
  | cons next rest => simp [isBoundary, small next rfl]

theorem IsUncut.tail {c : Char} (uncut : IsUncut (c :: word)) : IsUncut word where
  inner d among := uncut.inner d (List.mem_cons_of_mem c among)
  small d among := uncut.small d (List.mem_cons_of_mem c among)

/-- An uncut word is a piece of its own where the text ends behind it or a separator follows. -/
theorem pieces_uncut {more : List (List Char)} (uncut : IsUncut word)
    (ends : ∀ next ∈ rest.head?, isSeparator next = true) (behind : pieces rest = [] :: more) :
    pieces (word ++ rest) = word :: more := by
  induction word with
  | nil => exact behind
  | cons c word ih =>
      have within : isBoundary c (word ++ rest) = false := by
        apply isBoundary_of_head
        intro next first
        cases word with
        | nil => exact (isAsciiUpper_separator (ends next first)).1
        | cons d word =>
            cases first
            exact uncut.tail.small next List.mem_cons_self
      exact pieces_cons (uncut.inner c List.mem_cons_self) within (ih uncut.tail)

theorem pieces_intercalate {words : List (List Char)} (separator : isSeparator mark = true)
    (uncut : ∀ word ∈ words, IsUncut word) (filled : words ≠ []) :
    pieces ([mark].intercalate words) = words := by
  induction words with
  | nil => exact absurd rfl filled
  | cons first more ih =>
      have here := uncut first List.mem_cons_self
      cases more with
      | nil => simpa using pieces_uncut here (by simp) (rfl : pieces [] = [[]])
      | cons second more =>
          have later := ih (fun word among => uncut word (List.mem_cons_of_mem first among))
            (List.cons_ne_nil second more)
          have parted : pieces (mark :: [mark].intercalate (second :: more)) =
              [] :: second :: more := by
            simp [pieces, separator, later]
          simpa using pieces_uncut here (by simpa using separator) parted

/-! ## Words in lower case -/

theorem inner_of_mem_wordChars {segment : List Char} (among : word ∈ wordChars segment) :
    word ≠ [] ∧ ∀ c ∈ word, isSeparator c = false := by
  obtain ⟨cut, filled⟩ := List.mem_filter.mp among
  constructor
  · simpa using filled
  · intro c inside
    exact (mem_pieces cut inside).2

/-- Lowering a word brings in neither separators nor capitals. -/
theorem isUncut_lowerChars (filled : word ≠ []) (inner : ∀ c ∈ word, isSeparator c = false) :
    lowerChars word ≠ [] ∧ IsUncut (lowerChars word) := by
  refine ⟨?_, ?_, ?_⟩
  · obtain ⟨c, rest, rfl⟩ := List.exists_cons_of_ne_nil filled
    exact (lowerAfter_filled c rest).2
  · intro c among
    rw [Bool.eq_false_iff]
    intro separator
    have mark : Letter.isMark c = true := by
      simp only [isSeparator, Bool.or_eq_true, beq_iff_eq] at separator
      rcases separator with rfl | rfl <;> decide
    have apart := inner c (mem_of_mem_lowerAfter mark among)
    rw [separator] at apart
    cases apart
  · intro c among
    exact Letter.isAsciiUpper_of_lowered (lower_of_mem_lowerAfter among)

theorem wordChars_lowered {words : List (List Char)} (separator : isSeparator mark = true)
    (shapes : ∀ word ∈ words, word ≠ [] ∧ ∀ c ∈ word, isSeparator c = false) :
    wordChars ([mark].intercalate (words.map lowerChars)) = words.map lowerChars := by
  have lowered : ∀ small ∈ words.map lowerChars, small ≠ [] ∧ IsUncut small := by
    intro small among
    obtain ⟨word, listed, rfl⟩ := List.mem_map.mp among
    obtain ⟨filled, inner⟩ := shapes word listed
    exact isUncut_lowerChars filled inner
  cases words with
  | nil => rfl
  | cons first more =>
      rw [wordChars, pieces_intercalate separator (fun small among => (lowered small among).2)
        (by simp)]
      rw [List.filter_eq_self]
      intro small among
      simpa using (lowered small among).1

theorem join_of_mark (marked : style.mark? = some mark) (words : List String) :
    join words style = String.intercalate (String.singleton mark) (words.map lower) ∧
      isSeparator mark = true := by
  cases style <;> cases marked <;> exact ⟨rfl, rfl⟩

/-- A segment in a style with marks has the lower case words of the segment it was made of. -/
theorem words_convert (marked : style.mark? = some mark) (segment : String) :
    words (convert segment style) = (words segment).map lower := by
  obtain ⟨joined, separator⟩ := join_of_mark marked (words segment)
  have texts : (words segment).map lower =
      ((wordChars segment.toList).map lowerChars).map String.ofList := by
    simp [words, lower, Function.comp_def]
  have chars : (convert segment style).toList =
      [mark].intercalate ((wordChars segment.toList).map lowerChars) := by
    rw [convert, joined, texts, String.toList_intercalate]
    simp [Function.comp_def]
  rw [words, chars, texts]
  congr 1
  exact wordChars_lowered separator fun word among => inner_of_mem_wordChars among

/-! ## Conversions -/

/-- Joining does not see the letter case of the words. -/
theorem join_lowered (words : List String) (style : CasingStyle) :
    join (words.map lower) style = join words style := by
  have twice : (words.map lower).map lower = words.map lower := by
    simp [Function.comp_def, lower_lower]
  simp only [join, twice]

theorem convert_convert (marked : style.mark? = some mark) (segment : String)
    (target : CasingStyle) : convert (convert segment style) target = convert segment target := by
  calc convert (convert segment style) target
      = join ((words segment).map lower) target :=
        congrArg (join · target) (words_convert marked segment)
    _ = convert segment target := join_lowered (words segment) target

end Segment

open Segment in
/-- A conversion through snake case or kebab case loses no word boundary: any style makes of the
converted segment what it makes of the segment, and the words of the converted segment are those
of the segment in lower case. -/
theorem delimited_style_keeps_words (segment : String) :
    (∀ target, convert (convert segment .snake) target = convert segment target ∧
      convert (convert segment .kebab) target = convert segment target) ∧
    words (convert segment .snake) = (words segment).map lower ∧
    words (convert segment .kebab) = (words segment).map lower := by
  refine ⟨?_, words_convert rfl segment, words_convert rfl segment⟩
  intro target
  exact ⟨convert_convert rfl segment target, convert_convert rfl segment target⟩

example :
    Segment.convert (Segment.convert "__HTTPServer-2ndΣΑΣ" .kebab) .camel = "httpServer2ndσας" := by
  decide +kernel

end ApiReview
