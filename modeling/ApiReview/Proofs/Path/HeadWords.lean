import ApiReview.Path.Segment
import ApiReview.Proofs.Text.Lowered

/-! The head word of a segment. A segment that has words is its last word, with a cut
in front of it and separators behind it; a segment without words is made of separators.
The head word is inflected in its place, and what is cut off in front stays cut off if
the new word starts like the old one. -/

set_option autoImplicit false

namespace ApiReview.Segment

open ApiReview.Text

variable {front word other seps text : List Char} {segment : String} {inflect : String → String}

/-! ## Cuts -/

theorem isAsciiUpper_separator {c : Char} (separator : isSeparator c = true) :
    Letter.isAsciiUpper c = false ∧ Letter.isAsciiLower c = false := by
  simp only [isSeparator, Bool.or_eq_true, beq_iff_eq] at separator
  rcases separator with rfl | rfl <;> decide

theorem isBoundary_separators (separators : ∀ c ∈ seps, isSeparator c = true) (c : Char) :
    isBoundary c seps = false := by
  cases seps with
  | nil => rfl
  | cons next rest => simp [isBoundary, (isAsciiUpper_separator (separators next List.mem_cons_self)).1]

theorem pieces_ne_nil (text : List Char) : pieces text ≠ [] := by
  cases text with
  | nil => exact List.cons_ne_nil _ _
  | cons c rest =>
      rw [pieces]
      split
      · exact List.cons_ne_nil _ _
      · split
        · exact List.cons_ne_nil _ _
        · split <;> exact List.cons_ne_nil _ _

/-- A character at which there is no cut joins the piece behind it. -/
theorem pieces_cons {c : Char} {rest piece : List Char} {more : List (List Char)}
    (inner : isSeparator c = false) (uncut : isBoundary c rest = false)
    (behind : pieces rest = piece :: more) : pieces (c :: rest) = (c :: piece) :: more := by
  rw [pieces, inner, uncut, behind]
  rfl

/-- Where a text is cut, its pieces are those in front of the cut and those behind it. -/
theorem pieces_cut (text : List Char) (cut : ∀ before c, front = before ++ [c] →
      isSeparator c = true ∨ isBoundary c text = true) :
    ∃ pieces_before, pieces (front ++ text) = pieces_before ++ pieces text ∧
      (front ≠ [] → pieces_before ≠ []) := by
  induction front with
  | nil => exact ⟨[], rfl, fun some_character => absurd rfl some_character⟩
  | cons c rest ih =>
      cases rest with
      | nil =>
          rw [List.singleton_append, pieces]
          rcases cut [] c rfl with separator | boundary
          · rw [if_pos separator]
            exact ⟨[[]], rfl, fun _ => List.cons_ne_nil _ _⟩
          · split
            · exact ⟨[[]], rfl, fun _ => List.cons_ne_nil _ _⟩
            · exact ⟨[[c]], rfl, fun _ => List.cons_ne_nil _ _⟩
      | cons next rest =>
          obtain ⟨earlier, split, filled⟩ := ih fun before last shape =>
            cut (c :: before) last (shape ▸ rfl)
          obtain ⟨first, more, rfl⟩ :=
            List.exists_cons_of_ne_nil (filled (List.cons_ne_nil _ _))
          rw [List.cons_append, pieces, split]
          split
          · exact ⟨[] :: first :: more, rfl, fun _ => List.cons_ne_nil _ _⟩
          · split
            · exact ⟨[c] :: first :: more, rfl, fun _ => List.cons_ne_nil _ _⟩
            · exact ⟨(c :: first) :: more, rfl, fun _ => List.cons_ne_nil _ _⟩

/-! ## Head words -/

/-- A text is the last word of a segment, between what is cut off in front of it and separators. -/
structure IsHead (front word seps : List Char) : Prop where
  filled : word ≠ []
  inner : ∀ c ∈ word, isSeparator c = false
  separators : ∀ c ∈ seps, isSeparator c = true
  uncut : ∀ before c behind, word = before ++ c :: behind → isBoundary c (behind ++ seps) = false
  cut : ∀ before c, front = before ++ [c] →
    isSeparator c = true ∨ isBoundary c (word ++ seps) = true

theorem IsHead.ofList_ne_empty (head : IsHead front word seps) : String.ofList word ≠ "" := by
  rw [ne_eq, ← String.toList_eq_nil_iff, String.toList_ofList]
  exact head.filled

theorem pieces_separators (separators : ∀ c ∈ seps, isSeparator c = true) :
    pieces seps = List.replicate (seps.length + 1) [] := by
  induction seps with
  | nil => rfl
  | cons c rest ih =>
      rw [pieces, if_pos (separators c List.mem_cons_self),
        ih fun d among => separators d (List.mem_cons_of_mem _ among)]
      rfl

theorem pieces_word (inner : ∀ c ∈ word, isSeparator c = false)
    (separators : ∀ c ∈ seps, isSeparator c = true)
    (uncut : ∀ before c behind, word = before ++ c :: behind →
      isBoundary c (behind ++ seps) = false) :
    pieces (word ++ seps) = word :: List.replicate seps.length [] := by
  induction word with
  | nil => exact pieces_separators separators
  | cons c rest ih =>
      refine pieces_cons (inner c List.mem_cons_self) (uncut [] c rest rfl) (ih ?_ ?_)
      · exact fun d among => inner d (List.mem_cons_of_mem _ among)
      · exact fun before d behind shape => uncut (c :: before) d behind (shape ▸ rfl)

theorem wordChars_separators (separators : ∀ c ∈ text, isSeparator c = true) :
    wordChars text = [] := by
  rw [wordChars, pieces_separators separators, List.filter_eq_nil_iff]
  intro piece among
  rw [List.eq_of_mem_replicate among]
  simp

theorem IsHead.getLast?_wordChars (head : IsHead front word seps) :
    (wordChars (front ++ word ++ seps)).getLast? = some word := by
  obtain ⟨earlier, split, -⟩ := pieces_cut (word ++ seps) head.cut
  have nothing : (List.replicate seps.length ([] : List Char)).filter (fun piece => !piece.isEmpty) =
      [] := by
    rw [List.filter_eq_nil_iff]
    intro piece among
    rw [List.eq_of_mem_replicate among]
    simp
  have kept : word.isEmpty = false := List.isEmpty_eq_false_iff.mpr head.filled
  rw [List.append_assoc, wordChars, split, pieces_word head.inner head.separators head.uncut,
    List.filter_append, List.filter_cons_of_pos (by rw [kept]; rfl), nothing, List.getLast?_append]
  rfl

/-- A text has a last word, or it is made of separators. -/
theorem exists_isHead (text : List Char) :
    (∀ c ∈ text, isSeparator c = true) ∨
      ∃ front word seps, text = front ++ word ++ seps ∧ IsHead front word seps := by
  induction text with
  | nil => exact .inl (by simp)
  | cons c rest ih =>
      rcases ih with separators | ⟨front, word, seps, rfl, head⟩
      · cases separator : isSeparator c with
        | true => exact .inl (List.forall_mem_cons.mpr ⟨separator, separators⟩)
        | false =>
            refine .inr ⟨[], [c], rest, rfl, List.cons_ne_nil _ _, ?_, separators, ?_, ?_⟩
            · exact List.forall_mem_singleton.mpr separator
            · intro before d behind shape
              cases before with
              | nil =>
                  cases shape
                  exact isBoundary_separators separators c
              | cons first more => simp at shape
            · intro before d shape
              simp at shape
      · right
        cases front with
        | nil =>
            by_cases cut : isSeparator c = true ∨ isBoundary c (word ++ seps) = true
            · refine ⟨[c], word, seps, rfl, head.filled, head.inner, head.separators, head.uncut, ?_⟩
              intro before d shape
              cases before with
              | nil =>
                  cases shape
                  exact cut
              | cons first more => simp at shape
            · rw [not_or, Bool.not_eq_true, Bool.not_eq_true] at cut
              refine ⟨[], c :: word, seps, rfl, List.cons_ne_nil _ _, ?_, head.separators, ?_, ?_⟩
              · exact List.forall_mem_cons.mpr ⟨cut.1, head.inner⟩
              · intro before d behind shape
                cases before with
                | nil =>
                    cases shape
                    exact cut.2
                | cons first more =>
                    exact head.uncut more d behind (List.cons.inj shape).2
              · intro before d shape
                simp at shape
        | cons first more =>
            refine ⟨c :: first :: more, word, seps, rfl, head.filled, head.inner, head.separators,
              head.uncut, ?_⟩
            intro before d shape
            cases before with
            | nil => simp at shape
            | cons start inside => exact head.cut inside d (List.cons.inj shape).2

/-! ## Inflection -/

theorem splitFirst?_reversed {part : List Char} (filled : part ≠ [])
    (inner : ∀ c ∈ part, isSeparator c = false) (separators : ∀ c ∈ seps, isSeparator c = true)
    (behind : List Char) :
    splitFirst? part (seps ++ part ++ behind) = some (seps, behind) := by
  induction seps with
  | nil =>
      obtain ⟨c, rest, rfl⟩ := List.exists_cons_of_ne_nil filled
      have here : (c :: rest).isPrefixOf (c :: (rest ++ behind)) = true :=
        List.isPrefixOf_iff_prefix.mpr (List.prefix_append (c :: rest) behind)
      rw [List.nil_append, List.cons_append, splitFirst?, if_pos here, ← List.cons_append,
        List.drop_left]
  | cons first more ih =>
      have elsewhere : part.isPrefixOf (first :: (more ++ part ++ behind)) = false := by
        rw [Bool.eq_false_iff, ne_eq, List.isPrefixOf_iff_prefix]
        intro front
        obtain ⟨c, rest, rfl⟩ := List.exists_cons_of_ne_nil filled
        obtain ⟨rfl, -⟩ := List.cons_prefix_cons.mp front
        have clash := inner c List.mem_cons_self
        rw [separators c List.mem_cons_self] at clash
        cases clash
      rw [List.cons_append, List.cons_append, splitFirst?, elsewhere,
        ih fun d among => separators d (List.mem_cons_of_mem _ among)]
      rfl

namespace IsHead

variable (head : IsHead front word seps) (written : segment.toList = front ++ word ++ seps)

include head

theorem splitLast?_eq : splitLast? word (front ++ word ++ seps) = some (front, seps) := by
  have filled : word.reverse ≠ [] := by simpa using head.filled
  have found := splitFirst?_reversed filled
    (fun c among => head.inner c (List.mem_reverse.mp among))
    (fun c among => head.separators c (List.mem_reverse.mp among) : ∀ c ∈ seps.reverse, _)
    front.reverse
  rw [splitLast?, List.reverse_append, List.reverse_append, ← List.append_assoc, found]
  simp

include written

theorem getLast?_words : (words segment).getLast? = some (String.ofList word) := by
  rw [words, written, List.getLast?_map, head.getLast?_wordChars]
  rfl

theorem lastWord_eq : lastWord segment = String.ofList word := by
  rw [lastWord, head.getLast?_words written, Option.getD_some]

theorem inflectHead_eq (inflect : String → String) :
    (inflectHead inflect segment).toList =
      front ++ (inflect (String.ofList word)).toList ++ seps := by
  rw [inflectHead, head.getLast?_words written]
  simp only [replaceLast, String.toList_ofList, written, head.splitLast?_eq]

end IsHead

/-- A segment without words is not inflected. -/
theorem inflectHead_of_separators (separators : ∀ c ∈ segment.toList, isSeparator c = true)
    (inflect : String → String) : words segment = [] ∧ inflectHead inflect segment = segment := by
  have none_left : words segment = [] := by rw [words, wordChars_separators separators, List.map_nil]
  exact ⟨none_left, by rw [inflectHead, none_left]; rfl⟩

/-- A word that starts like the head word of a segment, and holds no capitals behind its start, is
the head word in its place. -/
theorem IsHead.replaced (head : IsHead front word seps) {start : Char} {behind : List Char}
    (inner : ∀ c ∈ start :: behind, isSeparator c = false)
    (small : ∀ c ∈ behind, Letter.isAsciiUpper c = false)
    (capital : ∀ first rest, word = first :: rest → Letter.isAsciiUpper first = true →
      Letter.isAsciiUpper start = true)
    (second : ∀ first next rest, word = first :: next :: rest → Letter.isAsciiUpper first = true →
      Letter.isAsciiLower next = true → behind.head?.any Letter.isAsciiLower = true) :
    IsHead front (start :: behind) seps where
  filled := List.cons_ne_nil _ _
  inner := inner
  separators := head.separators
  uncut := by
    intro before c rest shape
    cases rest with
    | nil => exact isBoundary_separators head.separators c
    | cons next rest =>
        have inside : next ∈ behind := by
          cases before with
          | nil => exact (List.cons.inj shape).2 ▸ List.mem_cons_self
          | cons first more => exact (List.cons.inj shape).2 ▸ by simp
        simp [isBoundary, small next inside]
  cut := by
    intro before c shape
    obtain ⟨first, rest, rfl⟩ := List.exists_cons_of_ne_nil head.filled
    refine (head.cut before c shape).imp_right fun boundary => ?_
    simp only [List.cons_append, isBoundary, Bool.or_eq_true, Bool.and_eq_true] at boundary ⊢
    rcases boundary with ⟨before_small, first_capital⟩ | ⟨⟨before_capital, first_capital⟩, follows⟩
    · exact .inl ⟨before_small, capital first rest rfl first_capital⟩
    · refine .inr ⟨⟨before_capital, capital first rest rfl first_capital⟩, ?_⟩
      cases rest with
      | nil =>
          cases seps with
          | nil => cases follows
          | cons mark more =>
              have large := (isAsciiUpper_separator (head.separators mark List.mem_cons_self)).2
              simp [large] at follows
      | cons next rest =>
          have lowered := second first next rest rfl first_capital (by simpa using follows)
          cases behind with
          | nil => cases lowered
          | cons d more => exact lowered

/-! ## Whole segments -/

/-- The words of a segment, put together, are the segment without its separators. -/
theorem join_words (segment : String) : String.join (words segment) =
    String.ofList (segment.toList.filter fun c => !isSeparator c) := by
  have letters : ((words segment).map String.toList).flatten = (pieces segment.toList).flatten := by
    rw [words, List.map_map]
    simp only [Function.comp_def, String.toList_ofList, List.map_id', wordChars]
    exact List.flatten_filter_not_isEmpty
  rw [String.join_eq, letters, flatten_pieces]

/-- A segment that has words is cut around its last word once, whatever the word is replaced by. -/
theorem exists_cut_of_words (some_words : words segment ≠ []) :
    ∃ front seps : String, (∀ c ∈ seps.toList, isSeparator c = true) ∧
      segment = front ++ lastWord segment ++ seps ∧
      ∀ inflect : String → String,
        inflectHead inflect segment = front ++ inflect (lastWord segment) ++ seps := by
  rcases exists_isHead segment.toList with separators | ⟨front, word, seps, written, head⟩
  · exact absurd (inflectHead_of_separators separators id).1 some_words
  · refine ⟨String.ofList front, String.ofList seps, ?_, ?_, fun inflect => ?_⟩
    · rw [String.toList_ofList]
      exact head.separators
    · rw [head.lastWord_eq written, ← String.ofList_append, ← String.ofList_append, ← written,
        String.ofList_toList]
    · rw [← String.toList_inj, head.inflectHead_eq written, head.lastWord_eq written]
      simp

/-- The plural and the singular of a segment that has words differ from it in its last word alone,
which stands in both as the vocabulary inflects it, between the same front and the same separators.
A segment without words stays as it is. The words of a segment make it up but for its separators. -/
theorem inflection_touches_head (vocabulary : Vocabulary) (segment : String) :
    (words segment ≠ [] → ∃ front seps : String, (∀ c ∈ seps.toList, c = '-' ∨ c = '_') ∧
      segment = front ++ lastWord segment ++ seps ∧
      pluralize vocabulary segment =
        front ++ vocabulary.pluralize (lastWord segment) ++ seps ∧
      singularize vocabulary segment =
        front ++ vocabulary.singularize (lastWord segment) ++ seps) ∧
    (words segment = [] →
      pluralize vocabulary segment = segment ∧ singularize vocabulary segment = segment) ∧
    String.join (words segment) =
      String.ofList (segment.toList.filter fun c => c != '-' && c != '_') := by
  refine ⟨fun some_words => ?_, fun no_words => ?_, ?_⟩
  · obtain ⟨front, seps, separators, cut, inflected⟩ := exists_cut_of_words some_words
    refine ⟨front, seps, fun c among => ?_, cut, inflected _, inflected _⟩
    simpa [isSeparator] using separators c among
  · have unchanged : ∀ inflect : String → String, inflectHead inflect segment = segment := by
      intro inflect
      rw [inflectHead, no_words]
      rfl
    exact ⟨unchanged _, unchanged _⟩
  · have apart : ∀ c : Char, (!isSeparator c) = (c != '-' && c != '_') := fun c => by
      rw [isSeparator, Bool.not_or]
      rfl
    rw [join_words]
    simp only [apart]

/-- A segment whose last word stands in it before, once as it is and once with a capital. -/
theorem inflection_touches_head_repeated :
    words "busBus-bus__" ≠ [] ∧ pluralize .standard "busBus-bus__" = "busBus-buses__" ∧
      ∃ front seps : String, (∀ c ∈ seps.toList, c = '-' ∨ c = '_') ∧
        "busBus-bus__" = front ++ "bus" ++ seps ∧
        pluralize .standard "busBus-bus__" = front ++ "buses" ++ seps ∧
        singularize .standard "busBus-bus__" = front ++ "bus" ++ seps := by
  have some_words : words "busBus-bus__" ≠ [] := by decide
  have last : lastWord "busBus-bus__" = "bus" := by decide
  have plural : Vocabulary.standard.pluralize "bus" = "buses" := by decide +kernel
  have singular : Vocabulary.standard.singularize "bus" = "bus" := by decide +kernel
  have touched := (inflection_touches_head .standard "busBus-bus__").1 some_words
  rw [last, plural, singular] at touched
  exact ⟨some_words, by decide +kernel, touched⟩

end ApiReview.Segment
