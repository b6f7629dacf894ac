import ApiReview.Proofs.Path.PluralSegments
import ApiReview.Proofs.Word.ReturnRules

/-! Words that come back from their plurals. A countable lower case word that is singular does
so where a table lists its plural and where it is its own plural; and by rule, where the plural
does not read as something else, if the return rules leave the word as it is. Two kinds of words
never come back by rule: those that start with `oxen`, and those whose plural has an `s` on both
sides of a line end. -/

set_option autoImplicit false

namespace ApiReview.WordEnding

open ApiReview.Text

variable {word text : List Char}

/-! ## Words that are lost -/

theorem fits_form {text : String} (folded : text.toList = word.map Letter.fold) :
    Fits (form text) word := by
  rw [form, folded, List.map_map]
  refine List.forall₂_map_left_iff.mpr (List.forall₂_same.mpr fun c _ => ?_)
  exact beq_self_eq_true (Letter.fold c)

theorem endsIn_of_endsUncountable (uncountable : endsUncountable word = true) :
    ∃ listed ∈ Lexicon.generalUncountables, EndsIn (form listed) word := by
  obtain ⟨listed, among, ends⟩ := List.any_eq_true.mp uncountable
  rw [Bool.and_eq_true, beq_iff_eq] at ends
  exact ⟨listed, among, _, _, (List.take_append_drop ..).symm, fits_form ends.1⟩

/-- What keeps a word that starts with `oxen` and ends in an uncountable from coming back: the
rules before the one for `oxen` give other words, and a plural that is longer by two characters
does not end as its word does. -/
theorem apart_uncountables :
    (∀ listed ∈ Lexicon.generalUncountables, meets (form listed) (exact ['\n']) = false ∧
      ∀ rule ∈ singularRules.take 13, rule.atEnd = true ∧ ∀ stem ∈ rule.stems,
        meets (stem ++ exact rule.replacement.toList) (form listed) = false) ∧
    ∀ turn ∈ pluralTurns, turn.new.length = turn.ending.length + 2 →
      meets turn.pattern.form (exact (turn.new.drop (turn.new.length - 2))) = false := by
  decide +kernel

theorem pluralChars_of_lineEnd (split : hasPlainPlural word = false) : ∃ front,
    word = front ++ ['\n'] ∧ pluralChars word = front ++ ['s', '\n', 's'] := by
  rw [hasPlainPlural, Bool.or_eq_false_iff, bne_eq_false_iff_eq, List.any_eq_false] at split
  obtain ⟨ends, noRule⟩ := split
  obtain ⟨front, rfl⟩ := List.getLast?_eq_some_iff.mp ends
  have none_applies : pluralRules.findSome? (·.inflect? (front ++ ['\n'])) = none := by
    rw [List.findSome?_eq_none_iff]
    intro rule among
    simpa using noRule rule among
  refine ⟨front, rfl, ?_⟩
  rw [pluralChars, none_applies, Option.getD_none, addS, ends, if_pos (beq_self_eq_true _),
    List.dropLast_concat]

/-- A singular that ends in a line end, as its word does not, is a front of the word. -/
theorem prefix_of_lineEnd {rule : Rule} (listed : rule ∈ singularRules)
    (read : rule.inflect? text = some word) (ends : word.getLast? = some '\n')
    (apart : text.getLast? ≠ some '\n') : word <+: text := by
  obtain ⟨stem, ending, front, kept, old, tail, stands, rfl⟩ := Rule.inflect?_ok read
  have split := stands.split
  rcases List.eq_nil_or_concat tail with rfl | ⟨init, last, rfl⟩
  · rcases List.eq_nil_or_concat rule.replacement.toList with nothing | ⟨init, last, added⟩
    · rw [nothing, split]
      exact ⟨old, by simp⟩
    · -- what is put in ends in a letter
      have letter := (small_replacement (List.mem_append_right _ listed)).1 last (added ▸ by simp)
      have lineEnd : last = '\n' := by simpa [added] using ends
      rw [lineEnd] at letter
      cases letter
  · refine absurd ?_ apart
    rw [split]
    simpa using ends

theorem lost_of_lineEnd (split : hasPlainPlural word = false) :
    singularChars (pluralChars word) ≠ word := by
  obtain ⟨front, rfl, made⟩ := pluralChars_of_lineEnd split
  intro same
  have inFront : front ++ ['\n'] <+: front ++ ['s', '\n', 's'] := by
    rw [singularChars, made] at same
    cases found : singularRules.findSome? (·.inflect? (front ++ ['s', '\n', 's'])) with
    | none =>
        rw [found, Option.getD_none] at same
        rw [same]
    | some result =>
        rw [found, Option.getD_some] at same
        obtain ⟨rule, listed, read⟩ := List.exists_of_findSome?_eq_some found
        rw [same] at read
        exact prefix_of_lineEnd listed read (by simp) (by simp)
  obtain ⟨rest, whole⟩ := inFront
  rw [List.append_assoc] at whole
  cases List.append_cancel_left whole

theorem last_of_ends {known : Form} (ends : EndsIn known word)
    (apart : meets known (exact ['\n']) = false) : word.getLast? ≠ some '\n' := by
  intro last
  obtain ⟨front, rfl⟩ := List.getLast?_eq_some_iff.mp last
  rw [ends.meets (EndsIn.exact_iff.mpr (List.suffix_append front ['\n']))] at apart
  cases apart

theorem exists_turn_oxen (oxen : Fits (form "oxen") (text.take 4)) :
    ∃ rule, (rule ∈ singularRules.take 13 ∨ rule = oxenRule) ∧
      rule.inflect? text = some (singularChars text) := by
  have table : singularRules = singularRules.take 13 ++ oxenRule :: singularRules.drop 14 := rfl
  obtain ⟨result, applied⟩ := Option.isSome_iff_exists.mp (oxenRule_applies oxen)
  rw [singularChars, table, List.findSome?_append, List.findSome?_cons, applied]
  cases found : (singularRules.take 13).findSome? (·.inflect? text) with
  | none => exact ⟨oxenRule, .inr rfl, applied⟩
  | some result =>
      obtain ⟨rule, early, read⟩ := List.exists_of_findSome?_eq_some found
      exact ⟨rule, .inl early, read⟩

section Oxen

variable {listed : String} {rule : Rule} {plural : Turn} {base old : List Char}

theorem lost_of_earlier (among : listed ∈ Lexicon.generalUncountables)
    (ends : EndsIn (form listed) word) (early : rule ∈ singularRules.take 13) :
    rule.inflect? text ≠ some word := by
  intro read
  obtain ⟨noLineEnd, apart⟩ := apart_uncountables.1 listed among
  obtain ⟨stem, ending, front, kept, old, tail, stands, shape⟩ := Rule.inflect?_ok read
  have nothing : tail = [] := by
    rcases isWordEnd_iff.mp (stands.atEnd (apart rule early).1) with none_left | single
    · exact none_left
    · refine absurd ?_ (last_of_ends ends noLineEnd)
      rw [shape, single]
      simp
  rw [nothing, List.append_nil] at shape
  have result : EndsIn (stem ++ exact rule.replacement.toList) word :=
    ⟨front, _, shape, List.rel_append stands.kept (fits_exact.mpr rfl)⟩
  have met := result.meets ends
  rw [(apart rule early).2 stem stands.listed.1] at met
  cases met

variable (open_turn : plural ∈ pluralTurns) (takes : plural.Takes word base old)
  (last : word.getLast? ≠ some '\n') (oxen : Fits (form "oxen") (word.take 4))

include open_turn takes last oxen

theorem four_le_base : 4 ≤ base.length ∧ word.length = base.length + old.length := by
  have whole : word = base ++ old := by rw [← takes.split, trunk, if_neg last]
  have size := oxen.length_eq
  have sizes := congrArg List.length whole
  rw [List.length_take] at size
  rw [List.length_append] at sizes
  refine ⟨?_, sizes⟩
  by_contra short
  have stemShort := takes.stem.length_le
  have four : (form "oxen").length = 4 := rfl
  have crossed := (crossing_pluralTurns plural open_turn (4 - base.length) (by omega) (by omega)
    (by omega)).1 (by rw [takes.old.length_eq]; omega)
  have across : Fits (form "oxen") ((base ++ (old ++ [])).take 4) := by
    rwa [List.append_nil, ← whole]
  rw [meets_of_crossing across takes.stem takes.old (by omega) (by omega)] at crossed
  cases crossed

/-- A plural without the `en` of `oxen` is not the word: it ends as the plural does. -/
theorem lost_of_oxenRule : oxenRule.inflect? (base ++ plural.new) ≠ some word := by
  intro read
  obtain ⟨stem, ending, front, kept, taken, tail, stands, shape⟩ := Rule.inflect?_ok read
  obtain ⟨long, word_size⟩ := four_le_base open_turn takes last oxen
  have keptSize : kept.length = 2 :=
    (List.mem_singleton.mp stands.listed.1 ▸ stands.kept).length_eq.symm
  have takenSize : taken.length = 2 :=
    (List.mem_singleton.mp stands.listed.2 ▸ stands.old).length_eq.symm
  have split := stands.split
  rw [stands.atStart rfl, List.nil_append] at shape split
  have shape : word = kept ++ tail := shape
  rw [← List.append_assoc] at split
  have plural_size := congrArg List.length split
  rw [shape] at word_size
  simp only [List.length_append] at plural_size word_size
  have longer : plural.new.length = plural.ending.length + 2 := by
    rw [takes.old.length_eq]
    omega
  have inPlural : plural.new.drop (plural.new.length - 2) <:+ kept ++ taken ++ tail := by
    rw [← split]
    exact (List.drop_suffix ..).trans (List.suffix_append ..)
  have inTail := List.suffix_of_suffix_length_le inPlural (List.suffix_append ..)
    (by rw [List.length_drop]; omega)
  have inWord := EndsIn.exact_iff.mpr (inTail.trans (List.suffix_append kept tail))
  have ends := takes.holds.ends
  rw [trunk, if_neg last] at ends
  rw [← shape] at inWord
  have met := ends.meets inWord
  rw [apart_uncountables.2 plural open_turn longer] at met
  cases met

end Oxen

theorem lost_of_oxen (oxen : Fits (form "oxen") (word.take 4))
    (uncountable : endsUncountable word = true) : singularChars (pluralChars word) ≠ word := by
  obtain ⟨listed, among, ends⟩ := endsIn_of_endsUncountable uncountable
  have last := last_of_ends ends (apart_uncountables.1 listed among).1
  obtain ⟨plural, open_turn, base, old, takes, made⟩ :=
    exists_plural_turn (show hasPlainPlural word = true by simp [hasPlainPlural, last])
  rw [lineEnd_eq_nil last, List.append_nil] at made
  have start : (pluralChars word).take 4 = word.take 4 := by
    rw [made]
    exact take_four_of_long takes (four_le_base open_turn takes last oxen).1 _
  obtain ⟨rule, early, read⟩ := exists_turn_oxen (start ▸ oxen)
  intro same
  rw [same] at read
  rcases early with before | rfl
  · exact lost_of_earlier among ends before read
  · rw [made] at read
    exact lost_of_oxenRule open_turn takes last oxen read

end ApiReview.WordEnding

namespace ApiReview.LowerWord

open ApiReview.Text ApiReview.WordEnding

variable {word : String}

/-- Whether a word stands in no table and does not end in an uncountable, so that it is made
singular by rule. -/
def isFree (word : String) : Bool :=
  (Lexicon.irregularSingular? word).isNone && (Lexicon.irregularPlural? word).isNone &&
    !Lexicon.pathUncountables.contains word && !endsUncountable word.toList

/-- Whether the rules bring a word back from its plural. -/
def returnsByRule (word : String) : Bool :=
  !decide (Fits (form "oxen") (word.toList.take 4)) && hasPlainPlural word.toList &&
    returned word.toList == word.toList

/-- Whether a word comes back from its plural: as the tables say, because the plural is the word
itself, or by rule. -/
def comesBack (word : String) : Bool :=
  (Lexicon.irregularPlural? word).isSome || pluralize word == word ||
    (isFree (pluralize word) && returnsByRule word)

theorem paired_irregularNouns : ∀ entry ∈ Lexicon.irregularNouns,
    Lexicon.irregularSingular? entry.2 = some entry.1 ∧
      (Lexicon.irregularPlural? entry.1).isSome := by decide +kernel

section Settled

variable (settled : singularize word = word)
  (regular : Lexicon.irregularPlural? word = none)
  (countable : isUncountable word = false)

include settled regular countable

theorem byRule_of_settled : Lexicon.irregularSingular? word = none ∧
    WordEnding.singularize word = word := by
  rw [isUncountable, Bool.or_eq_false_iff] at countable
  rw [singularize] at settled
  cases irregular : Lexicon.irregularSingular? word with
  | some singular =>
      have apart := (apart_irregularNouns _ (Lexicon.mem_of_irregularSingular? irregular)).1
      rw [irregular] at settled
      exact absurd settled apart
  | none =>
      rw [irregular, regular, countable.1] at settled
      exact ⟨rfl, settled⟩

theorem endsUncountable_of_oxen (oxen : Fits (form "oxen") (word.toList.take 4)) :
    endsUncountable word.toList = true := by
  have byRule := (byRule_of_settled settled regular countable).2
  rw [WordEnding.singularize] at byRule
  cases uncountable : endsUncountable word.toList with
  | true => rfl
  | false =>
      rw [uncountable, if_neg Bool.false_ne_true, ← String.toList_inj, String.toList_ofList] at byRule
      have applies : ∃ rule ∈ singularRules, (rule.inflect? word.toList).isSome :=
        ⟨oxenRule, oxenRule_mem, oxenRule_applies oxen⟩
      have idle := (findSome?_singularRules_iff applies).mp byRule
      exact absurd oxen (isIdle_iff.mp idle).1

theorem pluralize_byRule (filled : word ≠ "") (other : pluralize word ≠ word) :
    pluralize word = String.ofList (pluralChars word.toList) := by
  have unlisted := Bool.or_eq_false_iff.mp countable
  have some_character : word.isEmpty = false := by simpa using filled
  rw [pluralize, unlisted.1, regular, (byRule_of_settled settled regular countable).1] at other ⊢
  simp only [Bool.false_eq_true, if_false, Option.isSome_none] at other ⊢
  split at other
  · exact absurd rfl other
  · rename_i noEnding
    rw [if_neg noEnding, WordEnding.pluralize, some_character, unlisted.2, Bool.or_self,
      if_neg Bool.false_ne_true]
    rfl

theorem rules_return_iff :
    singularChars (pluralChars word.toList) = word.toList ↔ returnsByRule word = true := by
  rw [returnsByRule]
  by_cases oxen : Fits (form "oxen") (word.toList.take 4)
  · have uncountable := endsUncountable_of_oxen settled regular countable oxen
    simp [oxen, lost_of_oxen oxen uncountable]
  · cases plain : hasPlainPlural word.toList with
    | false => simp [lost_of_lineEnd plain]
    | true =>
        rw [singularChars_pluralChars oxen plain]
        simp [oxen]

theorem singularize_regular_iff (filled : word ≠ "") (other : pluralize word ≠ word) :
    singularize (pluralize word) = word ↔
      (isFree (pluralize word) && returnsByRule word) = true := by
  have byRule := pluralize_byRule settled regular countable filled other
  rw [singularize, isFree]
  cases irregular : Lexicon.irregularSingular? (pluralize word) with
  | some singular =>
      -- another word has this plural
      have paired := (paired_irregularNouns _ (Lexicon.mem_of_irregularSingular? irregular)).2
      simp only [Option.isNone_some, Bool.false_and, Bool.false_eq_true, iff_false]
      rintro rfl
      rw [regular] at paired
      cases paired
  | none =>
      cases plurals : Lexicon.irregularPlural? (pluralize word) with
      | some _ => simp [other]
      | none =>
          cases listed : Lexicon.pathUncountables.contains (pluralize word) with
          | true => simp [other]
          | false =>
              rw [WordEnding.singularize]
              cases uncountable : endsUncountable (pluralize word).toList with
              | true => simp [other]
              | false =>
                  have chars := congrArg String.toList byRule
                  rw [String.toList_ofList] at chars
                  have iff_rules := rules_return_iff settled regular countable
                  rw [← chars, singularChars] at iff_rules
                  simpa [← String.toList_inj] using iff_rules

end Settled

theorem singularize_pluralize_eq_iff (filled : word ≠ "") (settled : singularize word = word)
    (countable : isUncountable word = false) :
    singularize (pluralize word) = word ↔ comesBack word = true := by
  rw [comesBack]
  cases irregular : Lexicon.irregularPlural? word with
  | some plural =>
      have paired := (paired_irregularNouns _ (Lexicon.mem_of_irregularPlural? irregular)).1
      have unlisted := (Bool.or_eq_false_iff.mp countable).1
      have read : pluralize word = plural := by
        rw [pluralize, unlisted, irregular]
        rfl
      simp [read, singularize, paired]
  | none =>
      by_cases itself : pluralize word = word
      · simp [itself, settled]
      · rw [singularize_regular_iff settled irregular countable filled itself]
        simp [itself]

end ApiReview.LowerWord

namespace ApiReview

open ApiReview.Text ApiReview.WordEnding

variable {word : String}

theorem not_isUpper_of_opensSmall {c : Char} (small : opensSmall c = true) :
    Letter.isUpper c = false := by
  rcases Bool.or_eq_true_iff.mp small with lineEnd | letter
  · rw [eq_of_beq lineEnd]
    decide
  · have bounds := Letter.toNat_bounds_of_isAsciiLower letter
    rw [Letter.isUpper, if_pos (by omega), Letter.isAsciiUpper_of_isAsciiLower letter]

section Lower

variable (filled : word ≠ "") (small : lower word = word)
  (settled : Vocabulary.standard.singularize word = word)

include filled small settled

theorem lowerWord_settled : LowerWord.singularize word = word := by
  have flagged : lower (inflected LowerWord.singularize word) = lower word := congrArg lower settled
  rw [inflected_eq filled] at flagged
  have spelled := LowerWord.spelled_singularize (lower word)
  have lowered : lower (matchCapital word (LowerWord.singularize (lower word))) =
      LowerWord.singularize (lower word) := by
    refine lower_matchCapital (lowered_of_spelled spelled) fun capital c starts => ?_
    rcases spelled.start c starts with kept | returns
    · exact returns_of_lower_matchCapital filled spelled capital flagged c kept
    · exact returns
  rw [lowered, small] at flagged
  exact flagged

/-- What comes back from the plural takes no capital that the word does not have. -/
theorem matchCapital_plural :
    matchCapital (Vocabulary.standard.pluralize word) word = word := by
  have flagged : lower (inflected LowerWord.singularize word) = lower word := congrArg lower settled
  obtain ⟨first, start, behind, shape, written, -, same⟩ := pluralized_shape filled flagged
  rw [matchCapital]
  split
  · rename_i capital
    have own : startsUpper word.toList = true := by
      by_contra plain
      rw [Bool.not_eq_true] at plain
      have listed : (Vocabulary.standard.pluralize word).toList = start :: behind := written
      rw [listed, same plain, startsUpper, List.head?_cons, Option.any_some] at capital
      rw [small] at shape
      rcases (LowerWord.spelled_pluralize filled).1.head first (by rw [shape, List.head?_cons])
        with kept | opens
      · rw [startsUpper, kept, Option.any_some, capital] at plain
        cases plain
      · rw [not_isUpper_of_opensSmall opens] at capital
        cases capital
    split
    · rfl
    · rename_i c rest shape
      rw [startsUpper, shape, List.head?_cons, Option.any_some] at own
      rw [Letter.upper_of_isUpper own, List.singleton_append, ← shape, String.ofList_toList]
  · rfl

end Lower

/-- A lower case word that is singular and countable comes back from its plural if and only if the
tables or the rules bring it back. -/
theorem pluralize_comes_back_iff (filled : word ≠ "") (small : lower word = word)
    (settled : Vocabulary.standard.singularize word = word)
    (countable : Vocabulary.standard.isUncountable word = false) :
    Vocabulary.standard.singularize (Vocabulary.standard.pluralize word) = word ↔
      LowerWord.comesBack word = true := by
  have flagged : lower (inflected LowerWord.singularize word) = lower word := congrArg lower settled
  have unlisted : LowerWord.isUncountable word = false := small ▸ countable
  have lowered := lower_singularized filled flagged
  have plural := lower_pluralized filled flagged
  rw [small] at lowered plural
  rw [← LowerWord.singularize_pluralize_eq_iff filled (lowerWord_settled filled small settled)
    unlisted]
  constructor
  · intro same
    rw [← lowered]
    exact (congrArg lower same).trans small
  · intro same
    have some_character : inflected LowerWord.pluralize word ≠ "" := by
      intro empty
      rw [empty] at plural
      have opens := (LowerWord.spelled_pluralize filled).2.filled
      rw [← plural] at opens
      exact opens (by decide)
    have read : Vocabulary.standard.singularize (Vocabulary.standard.pluralize word) =
        matchCapital (Vocabulary.standard.pluralize word)
          (LowerWord.singularize (LowerWord.pluralize word)) := by
      rw [← plural]
      exact inflected_eq some_character _
    rw [read, same]
    exact matchCapital_plural filled small settled

/-- A regular word, one that an exception keeps from being lost, and one that is lost. -/
theorem pluralize_comes_back_iff_cache :
    (∀ word ∈ ["user", "shoe", "cache"], word ≠ "" ∧ lower word = word ∧
      Vocabulary.standard.singularize word = word ∧
      Vocabulary.standard.isUncountable word = false) ∧
    Vocabulary.standard.singularize (Vocabulary.standard.pluralize "user") = "user" ∧
    Vocabulary.standard.singularize (Vocabulary.standard.pluralize "shoe") = "shoe" ∧
    Vocabulary.standard.singularize (Vocabulary.standard.pluralize "cache") ≠ "cache" := by
  have judged : ∀ word ∈ ["user", "shoe", "cache"], word ≠ "" ∧ lower word = word ∧
      Vocabulary.standard.singularize word = word ∧
      Vocabulary.standard.isUncountable word = false := by decide +kernel
  have returns : LowerWord.comesBack "user" = true ∧ LowerWord.comesBack "shoe" = true ∧
      LowerWord.comesBack "cache" = false := by decide +kernel
  have comes_back (word : String) (listed : word ∈ ["user", "shoe", "cache"]) :
      Vocabulary.standard.singularize (Vocabulary.standard.pluralize word) = word ↔
        LowerWord.comesBack word = true := by
    obtain ⟨filled, small, settled, countable⟩ := judged word listed
    exact pluralize_comes_back_iff filled small settled countable
  refine ⟨judged, (comes_back _ (by decide)).mpr returns.1, (comes_back _ (by decide)).mpr returns.2.1,
    fun same => ?_⟩
  have lost := (comes_back _ (by decide)).mp same
  rw [returns.2.2] at lost
  cases lost

end ApiReview
