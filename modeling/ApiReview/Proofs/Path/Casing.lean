import ApiReview.Path.Basic
import ApiReview.Proofs.Text.LetterCase

/-! Segments rewritten in a casing style. The words of an ASCII segment hold no
separators, so that lowered and joined again they carry the marks of the new style
or no marks at all, whatever stood between and inside them before. -/

set_option autoImplicit false

namespace ApiReview

open ApiReview.Text

/-! ## ASCII characters -/

def Text.isAscii (text : String) : Bool := text.toList.all fun c => decide (c.toNat < 128)

theorem Text.Letter.of_ascii (test : Char → Bool)
    (all : (List.range 128).all (fun code => test (Char.ofNat code)) = true) {c : Char}
    (ascii : c.toNat < 128) : test c = true := by
  have here := List.all_eq_true.mp all c.toNat (List.mem_range.mpr ascii)
  rwa [Char.ofNat_toNat] at here

namespace Segment

/-- Whether a character may stand inside a word: an ASCII character that separates neither words
nor segments. -/
def isInner (c : Char) : Bool := decide (c.toNat < 128) && !isSeparator c && c != '/'

def isSmallInner (c : Char) : Bool := isInner c && !Letter.isUpper c

theorem ascii_of_isInner {c : Char} (inner : isInner c = true) : c.toNat < 128 := by
  simp only [isInner, Bool.and_eq_true, decide_eq_true_eq] at inner
  exact inner.1.1

theorem lower_isInner {c : Char} (inner : isInner c = true) :
    Letter.lower c ≠ [] ∧ ∀ d ∈ Letter.lower c, isSmallInner d = true := by
  have tested := Letter.of_ascii (fun c => !isInner c ||
    (!(Letter.lower c).isEmpty && (Letter.lower c).all isSmallInner)) (by decide +kernel)
    (ascii_of_isInner inner)
  simpa [inner] using tested

theorem title_isInner {c : Char} (inner : isInner c = true) :
    Letter.title c ≠ [] ∧ ∀ d ∈ Letter.title c, isInner d = true ∧ Letter.isLower d = false := by
  have tested := Letter.of_ascii (fun c => !isInner c ||
    (!(Letter.title c).isEmpty && (Letter.title c).all fun d => isInner d && !Letter.isLower d))
    (by decide +kernel) (ascii_of_isInner inner)
  simpa [inner] using tested

/-! ## Words -/

/-- The pieces of a text hold its characters in order, less the separators. -/
theorem flatten_pieces (text : List Char) :
    (pieces text).flatten = text.filter fun c => !isSeparator c := by
  induction text with
  | nil => rfl
  | cons c rest ih =>
      rw [pieces]
      split
      · rename_i separator
        rw [List.flatten_cons, ih, List.filter_cons_of_neg (by simp [separator])]
        rfl
      · rename_i inner
        rw [List.filter_cons_of_pos (by simpa using inner), ← ih]
        split
        · rw [List.flatten_cons, List.singleton_append]
        · split
          · rename_i none_left
            rw [none_left]
            rfl
          · rename_i piece more shape
            rw [shape, List.flatten_cons, List.flatten_cons, List.cons_append]

theorem mem_pieces {text piece : List Char} {c : Char} (cut : piece ∈ pieces text)
    (inside : c ∈ piece) : c ∈ text ∧ isSeparator c = false := by
  have among : c ∈ (pieces text).flatten := List.mem_flatten.mpr ⟨piece, cut, inside⟩
  rw [flatten_pieces, List.mem_filter, Bool.not_eq_true'] at among
  exact among

/-- A text of characters that may stand inside a word, of which there are some. -/
structure IsWord (word : String) : Prop where
  filled : word.toList ≠ []
  inner : ∀ c ∈ word.toList, isInner c = true

/-- A word without capitals. -/
structure IsSmallWord (word : String) : Prop extends IsWord word where
  small : ∀ c ∈ word.toList, Letter.isUpper c = false

theorem isWord_of_mem_words {segment word : String} (ascii : isAscii segment = true)
    (whole : '/' ∉ segment.toList) (among : word ∈ words segment) : IsWord word := by
  obtain ⟨piece, cut, rfl⟩ := List.mem_map.mp among
  obtain ⟨cut, filled⟩ := List.mem_filter.mp cut
  rw [isAscii, List.all_eq_true] at ascii
  refine ⟨?_, fun c inside => ?_⟩
  · simpa using filled
  · obtain ⟨held, plain⟩ := mem_pieces cut (String.toList_ofList ▸ inside)
    simp only [isInner, plain, ascii c held, Bool.not_false, Bool.and_self, Bool.true_and,
      bne_iff_ne]
    exact fun slash => whole (slash ▸ held)

theorem no_sigma {text : List Char} (ascii : ∀ c ∈ text, isInner c = true) :
    ∀ c ∈ text, c.toNat ≠ 0x3A3 := by
  intro c among
  have small := ascii_of_isInner (ascii c among)
  omega

theorem lowerAfter_isInner (before : List Char) {text : List Char}
    (inner : ∀ c ∈ text, isInner c = true) :
    ∀ d ∈ lowerAfter before text, isSmallInner d = true := by
  rw [lowerAfter_eq_flatMap (no_sigma inner)]
  intro d among
  obtain ⟨c, held, inside⟩ := List.mem_flatMap.mp among
  exact (lower_isInner (inner c held)).2 d inside

theorem IsWord.lower {word : String} (shape : IsWord word) : IsSmallWord (Text.lower word) := by
  have small := lowerAfter_isInner [] shape.inner
  have text : (Text.lower word).toList = lowerAfter [] word.toList := String.toList_ofList
  have each (c : Char) (among : c ∈ (Text.lower word).toList) :
      isInner c = true ∧ Letter.isUpper c = false := by
    simpa [isSmallInner] using small c (text ▸ among)
  refine ⟨⟨?_, fun c among => (each c among).1⟩, fun c among => (each c among).2⟩
  obtain ⟨c, rest, split⟩ := List.exists_cons_of_ne_nil shape.filled
  rw [text, lowerAfter_eq_flatMap (no_sigma shape.inner), split, List.flatMap_cons]
  have head := (lower_isInner (shape.inner c (split ▸ List.mem_cons_self))).1
  simp [head]

theorem IsWord.capitalize {word : String} (shape : IsWord word) :
    IsWord (Text.capitalize word) ∧ startsLower (Text.capitalize word).toList = false := by
  obtain ⟨c, rest, split⟩ := List.exists_cons_of_ne_nil shape.filled
  have inner := shape.inner
  rw [split] at inner
  obtain ⟨filled, titled⟩ := title_isInner (inner c List.mem_cons_self)
  have small := lowerAfter_isInner [c] fun d among =>
    inner d (List.mem_cons_of_mem _ among)
  have text : (Text.capitalize word).toList = Letter.title c ++ lowerAfter [c] rest := by
    rw [Text.capitalize, String.toList_ofList, split, capitalizeChars]
  obtain ⟨d, more, front⟩ := List.exists_cons_of_ne_nil filled
  refine ⟨⟨?_, fun e among => ?_⟩, ?_⟩
  · rw [text, front]
    simp
  · rw [text, List.mem_append] at among
    rcases among with first | behind
    · exact (titled e first).1
    · have both := small e behind
      rw [isSmallInner, Bool.and_eq_true] at both
      exact both.1
  · rw [text, front, startsLower]
    exact (titled d (front ▸ List.mem_cons_self)).2

/-! ## Joined words -/

theorem mem_intercalate {separator : List Char} {texts : List (List Char)} {c : Char}
    (among : c ∈ separator.intercalate texts) : c ∈ separator ∨ ∃ text ∈ texts, c ∈ text := by
  induction texts with
  | nil => cases among
  | cons first rest ih =>
      cases rest with
      | nil => exact .inr ⟨first, List.mem_cons_self, by simpa [List.intercalate] using among⟩
      | cons second rest =>
          rw [List.intercalate, List.intersperse_cons_cons, List.flatten_cons, List.flatten_cons,
            List.mem_append, List.mem_append] at among
          rcases among with here | between | behind
          · exact .inr ⟨first, List.mem_cons_self, here⟩
          · exact .inl between
          · obtain found | ⟨text, held, inside⟩ := ih behind
            · exact .inl found
            · exact .inr ⟨text, List.mem_cons_of_mem _ held, inside⟩

theorem ne_of_isInner {c : Char} (inner : isInner c = true) : c ≠ '_' ∧ c ≠ '-' ∧ c ≠ '/' := by
  refine ⟨?_, ?_, ?_⟩ <;> rintro rfl <;> revert inner <;> decide

theorem not_mem_of_inner {text : List Char} (inner : ∀ c ∈ text, isInner c = true) :
    '_' ∉ text ∧ '-' ∉ text ∧ '/' ∉ text :=
  ⟨fun among => (ne_of_isInner (inner _ among)).1 rfl,
    fun among => (ne_of_isInner (inner _ among)).2.1 rfl,
    fun among => (ne_of_isInner (inner _ among)).2.2 rfl⟩

/-- The style of a segment without separators is told by its capitals. -/
theorem style_of_inner {segment : String} (inner : ∀ c ∈ segment.toList, isInner c = true) :
    style segment =
      if startsLower segment.toList && segment.toList.any Letter.isUpper then .camel
      else if startsUpper segment.toList then .pascal
      else .lower := by
  obtain ⟨low, mid, -⟩ := not_mem_of_inner inner
  simp only [style, List.contains_eq_mem, low, mid, decide_false, Bool.false_eq_true, if_false]

theorem startsUpper_eq_false {text : List Char} (small : ∀ c ∈ text, Letter.isUpper c = false) :
    startsUpper text = false := by
  cases text with
  | nil => rfl
  | cons c rest => exact small c List.mem_cons_self

variable {words : List String}

/-- A text of small characters and separators of one kind has the style of the separator, or no
marks. -/
theorem style_of_separated {segment : String} {mark : Char} {dominant : CasingStyle}
    (marks : (mark = '_' ∧ dominant = .snake) ∨ (mark = '-' ∧ dominant = .kebab))
    (held : ∀ c ∈ segment.toList, c = mark ∨ (isInner c = true ∧ Letter.isUpper c = false)) :
    (style segment = dominant ∨ style segment = .lower) ∧ '/' ∉ segment.toList := by
  have whole : '/' ∉ segment.toList := by
    intro among
    rcases held _ among with slash | ⟨inner, -⟩
    · rcases marks with ⟨rfl, -⟩ | ⟨rfl, -⟩ <;> revert slash <;> decide
    · exact (ne_of_isInner inner).2.2 rfl
  refine ⟨?_, whole⟩
  by_cases marked : mark ∈ segment.toList
  · left
    rcases marks with ⟨rfl, rfl⟩ | ⟨rfl, rfl⟩
    · simp [style, marked]
    · have low : '_' ∉ segment.toList := by
        intro among
        rcases held _ among with same | ⟨inner, -⟩
        · revert same
          decide
        · exact (ne_of_isInner inner).1 rfl
      simp [style, marked, low]
  · right
    have plain (c : Char) (among : c ∈ segment.toList) :
        isInner c = true ∧ Letter.isUpper c = false :=
      (held c among).resolve_left fun same => marked (same ▸ among)
    have none_upper : segment.toList.any Letter.isUpper = false := by
      rw [List.any_eq_false]
      exact fun c among => by simp [(plain c among).2]
    rw [style_of_inner fun c among => (plain c among).1, none_upper,
      startsUpper_eq_false fun c among => (plain c among).2]
    simp

theorem separated_of_small {words : List String} (mark : Char)
    (shapes : ∀ word ∈ words, IsSmallWord word) :
    ∀ c ∈ (String.intercalate (String.singleton mark) words).toList,
      c = mark ∨ (isInner c = true ∧ Letter.isUpper c = false) := by
  intro c among
  rw [String.toList_intercalate] at among
  rcases mem_intercalate among with between | ⟨text, listed, inside⟩
  · exact .inl (by simpa using between)
  · obtain ⟨word, here, rfl⟩ := List.mem_map.mp listed
    exact .inr ⟨(shapes word here).inner c inside, (shapes word here).small c inside⟩

theorem inner_of_capitalized {words : List String} (shapes : ∀ word ∈ words, IsWord word) :
    ∀ c ∈ (String.join (words.map Text.capitalize)).toList, isInner c = true := by
  intro c among
  rw [String.toList_join, List.flatMap_map] at among
  obtain ⟨word, listed, inside⟩ := List.mem_flatMap.mp among
  exact (shapes word listed).capitalize.1.inner c inside

/-- A text that starts with a small word is in camel case, or has no marks. -/
theorem style_of_small_start {first : String} {segment : String} {behind : List Char}
    (shape : IsSmallWord first) (inner : ∀ c ∈ segment.toList, isInner c = true)
    (front : segment.toList = first.toList ++ behind) :
    style segment = .camel ∨ style segment = .lower := by
  obtain ⟨c, rest, split⟩ := List.exists_cons_of_ne_nil shape.filled
  have small : startsUpper segment.toList = false := by
    rw [front, split]
    exact shape.small c (split ▸ List.mem_cons_self)
  rw [style_of_inner inner, small]
  split
  · exact .inl rfl
  · exact .inr rfl

/-- A text that does not start with a small letter is in Pascal case, or has no marks. -/
theorem style_of_other_start {segment : String} (inner : ∀ c ∈ segment.toList, isInner c = true)
    (start : startsLower segment.toList = false) :
    style segment = .pascal ∨ style segment = .lower := by
  rw [style_of_inner inner, start, Bool.false_and, if_neg Bool.false_ne_true]
  split
  · exact .inl rfl
  · exact .inr rfl

/-- Words joined in a style that has marks have the marks of that style or none, and are one
segment. -/
theorem style_join {words : List String} {dominant : CasingStyle} (marked : dominant ≠ .lower)
    (shapes : ∀ word ∈ words, IsWord word) :
    (style (join words dominant) = dominant ∨ style (join words dominant) = .lower) ∧
      '/' ∉ (join words dominant).toList := by
  have small : ∀ word ∈ words.map Text.lower, IsSmallWord word := by
    intro word listed
    obtain ⟨original, here, rfl⟩ := List.mem_map.mp listed
    exact (shapes original here).lower
  have words_of (word : String) (listed : word ∈ words.map Text.lower) : IsWord word :=
    (small word listed).toIsWord
  unfold join
  cases dominant with
  | snake => exact style_of_separated (.inl ⟨rfl, rfl⟩) (separated_of_small '_' small)
  | kebab => exact style_of_separated (.inr ⟨rfl, rfl⟩) (separated_of_small '-' small)
  | camel =>
      cases shape : words.map Text.lower with
      | nil => exact ⟨.inr (by decide), by simp⟩
      | cons first rest =>
          rw [shape] at small words_of
          have inner : ∀ c ∈ (first ++ String.join (rest.map Text.capitalize)).toList,
              isInner c = true := by
            intro c among
            rw [String.toList_append, List.mem_append] at among
            rcases among with front | behind
            · exact (words_of first List.mem_cons_self).inner c front
            · exact inner_of_capitalized (fun word listed =>
                words_of word (List.mem_cons_of_mem _ listed)) c behind
          exact ⟨style_of_small_start (small first List.mem_cons_self) inner String.toList_append,
            (not_mem_of_inner inner).2.2⟩
  | pascal =>
      have inner := inner_of_capitalized words_of
      refine ⟨style_of_other_start inner ?_, (not_mem_of_inner inner).2.2⟩
      cases shape : words.map Text.lower with
      | nil => rfl
      | cons first rest =>
          obtain ⟨⟨filled, -⟩, start⟩ :=
            (words_of first (shape ▸ List.mem_cons_self)).capitalize
          obtain ⟨c, more, split⟩ := List.exists_cons_of_ne_nil filled
          rw [split] at start
          rw [String.toList_join, List.map_cons, List.flatMap_cons, split]
          exact start
  | lower => exact absurd rfl marked

/-- An ASCII segment that is converted to a style with marks has that style or none, and stays one
segment. -/
theorem style_convert {segment : String} {dominant : CasingStyle} (marked : dominant ≠ .lower)
    (ascii : isAscii segment = true) (whole : '/' ∉ segment.toList) :
    (style (convert segment dominant) = dominant ∨ style (convert segment dominant) = .lower) ∧
      '/' ∉ (convert segment dominant).toList :=
  style_join marked fun _ among => isWord_of_mem_words ascii whole among

end Segment

/-! ## Segments of paths -/

namespace Path

theorem mem_splitOn {separator c : Char} {text part : List Char}
    (cut : part ∈ text.splitOn separator) (inside : c ∈ part) : c ∈ text ∧ c ≠ separator := by
  induction text generalizing part with
  | nil =>
      rw [List.splitOn_nil, List.mem_singleton] at cut
      rw [cut] at inside
      cases inside
  | cons first rest ih =>
      rw [List.splitOn_cons_eq_if_modifyHead] at cut
      split at cut
      · rcases List.mem_cons.mp cut with rfl | among
        · cases inside
        · exact ⟨List.mem_cons_of_mem _ (ih among inside).1, (ih among inside).2⟩
      · rename_i other
        cases shape : rest.splitOn separator with
        | nil =>
            rw [shape] at cut
            cases cut
        | cons head tail =>
            rw [shape] at cut ih
            rcases List.mem_cons.mp cut with rfl | among
            · rcases List.mem_cons.mp inside with rfl | inside
              · exact ⟨List.mem_cons_self, fun same => other (by simp [same])⟩
              · have held := ih List.mem_cons_self inside
                exact ⟨List.mem_cons_of_mem _ held.1, held.2⟩
            · have held := ih (List.mem_cons_of_mem _ among) inside
              exact ⟨List.mem_cons_of_mem _ held.1, held.2⟩

theorem segment_of_ascii {path segment : String} (ascii : isAscii path = true)
    (among : segment ∈ segments path) : isAscii segment = true ∧ '/' ∉ segment.toList := by
  obtain ⟨part, cut, rfl⟩ := List.mem_map.mp (List.mem_filter.mp among).1
  rw [isAscii, List.all_eq_true] at ascii ⊢
  rw [String.toList_ofList]
  exact ⟨fun c inside => ascii c (mem_splitOn cut inside).1,
    fun inside => (mem_splitOn cut inside).2 rfl⟩

theorem segments_ofSegments {parts : List String} (whole : ∀ part ∈ parts, '/' ∉ part.toList) :
    segments (ofSegments parts) = parts.filter fun part => part != "" := by
  have text : (ofSegments parts).toList = '/' :: ['/'].intercalate (parts.map String.toList) := by
    rw [ofSegments, String.toList_append, String.toList_intercalate]
    rfl
  have cut : (ofSegments parts).toList.splitOn '/' = [] :: (if parts = [] then [[]]
      else parts.map String.toList) := by
    rw [text, List.splitOn_cons_eq_if_modifyHead, if_pos (beq_self_eq_true _)]
    split
    · rename_i none
      rw [none]
      rfl
    · rename_i some_part
      rw [List.splitOn_intercalate '/' _ (by simpa using some_part)]
      intro part listed
      obtain ⟨original, here, rfl⟩ := List.mem_map.mp listed
      exact whole original here
  rw [segments, splitOn, cut]
  split
  · rename_i none
    rw [none]
    rfl
  · simp [Function.comp_def]

end Path

end ApiReview
