import ApiReview.Proofs.Text.Lowered
import ApiReview.Proofs.Word.Plurals

/-! How inflected words are spelled. The characters of an inflected word are small
letters or stood in the word before, and a plural has small letters where its word
starts with them. So a form that takes over a capital is lowered back to the form
itself, if the word was once lowered back from one of its forms. -/

set_option autoImplicit false

namespace ApiReview.WordEnding

open ApiReview.Text

variable {word form text front kept old tail result : List Char} {rule : Rule}
  {stem ending : Form} {singular plural : String}

/-- A character that inflection may put at the start of a word. -/
def opensSmall (c : Char) : Bool := c == '\n' || Letter.isAsciiLower c

theorem returns_of_opensSmall {c : Char} (small : opensSmall c = true) : Letter.Returns c := by
  rcases Bool.or_eq_true_iff.mp small with lineEnd | letter
  · exact eq_of_beq lineEnd ▸ ⟨'\n', by decide⟩
  · exact Letter.returns_of_isAsciiLower letter

/-- An inflected form has small letters where it does not keep the characters of its word. -/
structure Spelled (word form : List Char) : Prop where
  among : ∀ c ∈ form, c ∈ word ∨ Letter.isAsciiLower c = true
  head : ∀ c, form.head? = some c → word.head? = some c ∨ opensSmall c = true

theorem Spelled.start (spelled : Spelled word form) :
    ∀ c, form.head? = some c → word.head? = some c ∨ Letter.Returns c :=
  fun c starts => (spelled.head c starts).imp_right returns_of_opensSmall

/-- A form has small letters in the first two places where its word has them, and is not empty. -/
structure Opens (word form : List Char) : Prop where
  filled : form ≠ []
  small : ∀ position < 2, ∀ c, word[position]? = some c → Letter.isAsciiLower c = true →
    form[position]?.any Letter.isAsciiLower = true

theorem Spelled.refl (word : List Char) : Spelled word word :=
  ⟨fun _ among => .inl among, fun _ starts => .inl starts⟩

theorem Opens.refl (filled : word ≠ []) : Opens word word where
  filled := filled
  small := fun position _ c place small => by rw [place, Option.any_some, small]

theorem spelled_of_small (small : ∀ c ∈ form, Letter.isAsciiLower c = true) : Spelled word form where
  among := fun c among => .inr (small c among)
  head := fun c starts => .inr (by simp [opensSmall, small c (List.mem_of_head? starts)])

theorem opens_of_small (small : ∀ c ∈ form, Letter.isAsciiLower c = true) (long : 2 ≤ form.length) :
    Opens word form where
  filled := List.ne_nil_of_length_pos (by omega)
  small := by
    intro position near c place first
    have inside : position < form.length := by omega
    rw [List.getElem?_eq_getElem inside, Option.any_some]
    exact small _ (List.getElem_mem inside)

/-! ## Rules -/

/-- What the spelling of a form relies on: a rule puts in small letters only, and it keeps something
of a pattern that need not end the word. -/
theorem small_replacement (listed : rule ∈ pluralRules ++ singularRules) :
    (∀ c ∈ rule.replacement.toList, Letter.isAsciiLower c = true) ∧
      (rule.atEnd = true ∨ ∀ stem ∈ rule.stems, stem ≠ []) := by
  have tested : ((pluralRules ++ singularRules).all fun rule =>
      rule.replacement.toList.all Letter.isAsciiLower &&
        (rule.atEnd || rule.stems.all fun stem => !stem.isEmpty)) = true := by decide +kernel
  simpa using List.all_eq_true.mp tested rule listed

theorem spelled_of_stands (listed : rule ∈ pluralRules ++ singularRules)
    (stands : rule.Stands stem ending text front kept old tail) :
    Spelled text (front ++ (kept ++ (rule.replacement.toList ++ tail))) where
  among := by
    intro c among
    rw [stands.split]
    simp only [List.mem_append] at among ⊢
    rcases among with here | here | here | here
    · exact .inl (.inl here)
    · exact .inl (.inr (.inl here))
    · exact .inr ((small_replacement listed).1 c here)
    · exact .inl (.inr (.inr (.inr here)))
  head := by
    intro c starts
    rw [stands.split]
    simp only [List.head?_append, Option.or_eq_some_iff] at starts ⊢
    rcases starts with here | ⟨noFront, here | ⟨noStem, here | ⟨-, here⟩⟩⟩
    · exact .inl (.inl here)
    · exact .inl (.inr ⟨noFront, .inl here⟩)
    · exact .inr (by simp [opensSmall, (small_replacement listed).1 c (List.mem_of_head? here)])
    · -- a form that starts behind the pattern is a line end
      right
      rcases (small_replacement listed).2 with atEnd | filled
      · have ends := stands.atEnd atEnd
        simp only [isWordEnd, Bool.or_eq_true, beq_iff_eq] at ends
        rcases ends with rfl | rfl
        · cases here
        · exact Option.some.inj here ▸ rfl
      · rw [List.head?_eq_none_iff.mp noStem] at stands
        have none_kept := List.forall₂_nil_right_iff.mp stands.kept
        exact absurd none_kept (filled stem stands.listed.1)

/-- The endings in front of which a plural rule asks for nothing. -/
def bareEndings : List Form :=
  [exact "kine".toList, exact "cow".toList] ++ forms ["sis", "s"]

/-- A plural rule does not shorten a pattern to less than two characters. -/
theorem long_replacement : ∀ rule ∈ pluralRules, rule.atEnd = true ∧ ∀ stem ∈ rule.stems,
    ∀ ending ∈ rule.endings, (stem = [] → ending ∈ bareEndings) ∧
      1 ≤ stem.length + rule.replacement.toList.length ∧
      (2 ≤ stem.length + rule.replacement.toList.length ∨
        ending.length ≤ rule.replacement.toList.length) := by decide +kernel

theorem opens_of_stands (listed : rule ∈ pluralRules)
    (stands : rule.Stands stem ending text front kept old tail) :
    Opens text (front ++ (kept ++ (rule.replacement.toList ++ tail))) := by
  obtain ⟨atEnd, long⟩ := long_replacement rule listed
  obtain ⟨-, some_left, long⟩ := long stem stands.listed.1 ending stands.listed.2
  have small := (small_replacement (List.mem_append_left _ listed)).1
  have ends := stands.atEnd atEnd
  rw [stands.kept.length_eq] at some_left long
  rw [stands.old.length_eq] at long
  constructor
  · refine List.ne_nil_of_length_pos ?_
    simp only [List.length_append]
    omega
  · intro position near c place first
    rw [stands.split] at place
    by_cases inKept : position < (front ++ kept).length
    · rw [← List.append_assoc, List.getElem?_append_left inKept] at place ⊢
      rw [place, Option.any_some, first]
    · rw [← List.append_assoc, List.getElem?_append_right (by omega)] at place ⊢
      by_cases inNew : position - (front ++ kept).length < rule.replacement.toList.length
      · rw [List.getElem?_append_left inNew, List.getElem?_eq_getElem inNew, Option.any_some]
        exact small _ (List.getElem_mem inNew)
      · -- what is behind the pattern is no letter
        rw [List.length_append] at inKept inNew place
        rw [List.getElem?_append_right (by omega)] at place
        simp only [isWordEnd, Bool.or_eq_true, beq_iff_eq] at ends
        have marked := List.mem_of_getElem? place
        rcases ends with rfl | rfl
        · cases marked
        · cases List.mem_singleton.mp marked
          cases first

/-! ## Tables and rules -/

theorem spelled_addS (word : List Char) : Spelled word (addS word) where
  among := by
    intro c among
    have letter : Letter.isAsciiLower 's' = true := by decide
    rw [addS] at among
    split at among
    · rename_i ends
      have last := List.mem_of_getLast? (eq_of_beq ends)
      simp only [List.mem_append, List.mem_cons, List.not_mem_nil, or_false] at among
      rcases among with here | rfl | rfl | rfl
      · exact .inl (List.mem_of_mem_dropLast here)
      · exact .inr letter
      · exact .inl last
      · exact .inr letter
    · simp only [List.mem_append, List.mem_singleton] at among
      rcases among with here | rfl
      · exact .inl here
      · exact .inr letter
  head := by
    intro c starts
    have letter : opensSmall 's' = true := by decide
    rw [addS] at starts
    split at starts
    · rename_i ends
      obtain ⟨before, rfl⟩ := List.getLast?_eq_some_iff.mp (eq_of_beq ends)
      rw [List.dropLast_concat] at starts
      cases before with
      | nil => exact .inr (Option.some.inj starts ▸ letter)
      | cons first more => exact .inl starts
    · cases word with
      | nil => exact .inr (Option.some.inj starts ▸ letter)
      | cons first more => exact .inl starts

theorem opens_addS (word : List Char) : Opens word (addS word) := by
  rw [addS]
  split
  · rename_i ends
    obtain ⟨before, rfl⟩ := List.getLast?_eq_some_iff.mp (eq_of_beq ends)
    rw [List.dropLast_concat]
    refine ⟨by simp, fun position near c place first => ?_⟩
    by_cases inside : position < before.length
    · rw [List.getElem?_append_left inside] at place ⊢
      rw [place, Option.any_some, first]
    · rw [List.getElem?_append_right (by omega)] at place
      cases List.mem_singleton.mp (List.mem_of_getElem? place)
      cases first
  · refine ⟨by simp, fun position near c place first => ?_⟩
    have inside := (List.getElem?_eq_some_iff.mp place).1
    rw [List.getElem?_append_left inside, place, Option.any_some, first]

theorem small_irregularNouns (listed : (singular, plural) ∈ Lexicon.irregularNouns) :
    (∀ c ∈ singular.toList, Letter.isAsciiLower c = true) ∧
      (∀ c ∈ plural.toList, Letter.isAsciiLower c = true) ∧ 2 ≤ plural.toList.length := by
  have tested : ∀ entry ∈ Lexicon.irregularNouns,
      entry.1.toList.all Letter.isAsciiLower = true ∧
      entry.2.toList.all Letter.isAsciiLower = true ∧ 2 ≤ entry.2.toList.length := by decide +kernel
  obtain ⟨small, others, long⟩ := tested (singular, plural) listed
  exact ⟨List.all_eq_true.mp small, List.all_eq_true.mp others, long⟩

/-! ## Starts of words -/

/-- Whether no plural rule takes a word away from its start. -/
def keepsStart (word : List Char) : Bool :=
  decide (2 ≤ word.length) && bareEndings.all fun ending =>
    decide (ending.length + 1 < word.length) || !decide (Fits ending (word.take ending.length))

theorem head?_pluralize {word : String}
    (keeps : keepsStart word.toList = true) :
    (WordEnding.pluralize word).toList.head? = word.toList.head? := by
  rw [keepsStart, Bool.and_eq_true, decide_eq_true_eq] at keeps
  obtain ⟨long, keeps⟩ := keeps
  rw [WordEnding.pluralize]
  split
  · rfl
  · rw [String.toList_ofList]
    cases found : pluralRules.findSome? (·.inflect? word.toList) with
    | none =>
        rw [Option.getD_none, addS]
        split
        · rename_i ends
          obtain ⟨before, shape⟩ := List.getLast?_eq_some_iff.mp (eq_of_beq ends)
          rw [shape, List.length_append] at long
          obtain ⟨c, more, rfl⟩ := List.exists_cons_of_length_pos (by simpa using long : 1 ≤ before.length)
          rw [shape, List.dropLast_concat]
          rfl
        · obtain ⟨c, more, shape⟩ := List.exists_cons_of_length_pos (by omega : 0 < word.toList.length)
          rw [shape]
          rfl
    | some result =>
        obtain ⟨rule, listed, read⟩ := List.exists_of_findSome?_eq_some found
        obtain ⟨stem, ending, front, kept, old, tail, stands, rfl⟩ := Rule.inflect?_ok read
        have split := stands.split
        rw [Option.getD_some, split]
        by_cases start : front ++ kept = []
        · exfalso
          obtain ⟨rfl, rfl⟩ := List.append_eq_nil_iff.mp start
          obtain ⟨atEnd, checked⟩ := long_replacement rule listed
          have bare := (checked stem stands.listed.1 ending stands.listed.2).1
          have checked := List.all_eq_true.mp keeps ending
            (bare (List.forall₂_nil_right_iff.mp stands.kept))
          rw [List.nil_append, List.nil_append] at split
          rw [split, List.length_append, ← stands.old.length_eq, List.take_left' stands.old.length_eq.symm]
            at checked
          have ends := stands.atEnd atEnd
          have short : tail.length ≤ 1 := by
            simp only [isWordEnd, Bool.or_eq_true, beq_iff_eq] at ends
            rcases ends with rfl | rfl <;> decide
          simp only [stands.old, decide_true, Bool.not_true, Bool.or_false, decide_eq_true_eq] at checked
          omega
        · obtain ⟨c, more, shape⟩ := List.exists_cons_of_ne_nil start
          rw [← List.append_assoc, ← List.append_assoc front, shape]
          rfl

end ApiReview.WordEnding

namespace ApiReview.LowerWord

open ApiReview.Text ApiReview.WordEnding

theorem spelled_singularize (word : String) : Spelled word.toList (singularize word).toList := by
  rw [singularize]
  split
  · rename_i singular found
    exact spelled_of_small (small_irregularNouns (Lexicon.mem_of_irregularSingular? found)).1
  · split
    · exact .refl _
    · split
      · exact .refl _
      · rw [WordEnding.singularize]
        split
        · exact .refl _
        · rw [String.toList_ofList]
          cases found : singularRules.findSome? (·.inflect? word.toList) with
          | none => exact .refl _
          | some result =>
              obtain ⟨rule, listed, read⟩ := List.exists_of_findSome?_eq_some found
              obtain ⟨stem, ending, front, kept, old, tail, stands, rfl⟩ := Rule.inflect?_ok read
              exact spelled_of_stands (List.mem_append_right _ listed) stands

theorem spelled_pluralize {word : String} (filled : word ≠ "") :
    Spelled word.toList (pluralize word).toList ∧ Opens word.toList (pluralize word).toList := by
  have itself : Spelled word.toList word.toList ∧ Opens word.toList word.toList :=
    ⟨.refl _, .refl (by simpa using filled)⟩
  rw [pluralize]
  split
  · exact itself
  · split
    · rename_i plural found
      obtain ⟨-, small, long⟩ := small_irregularNouns (Lexicon.mem_of_irregularPlural? found)
      exact ⟨spelled_of_small small, opens_of_small small long⟩
    · split
      · exact itself
      · split
        · exact itself
        · rw [WordEnding.pluralize]
          split
          · exact itself
          · rw [String.toList_ofList]
            cases found : pluralRules.findSome? (·.inflect? word.toList) with
            | none => exact ⟨spelled_addS _, opens_addS _⟩
            | some result =>
                obtain ⟨rule, listed, read⟩ := List.exists_of_findSome?_eq_some found
                obtain ⟨stem, ending, front, kept, old, tail, stands, rfl⟩ := Rule.inflect?_ok read
                exact ⟨spelled_of_stands (List.mem_append_left _ listed) stands,
                  opens_of_stands listed stands⟩

end ApiReview.LowerWord

namespace ApiReview

open ApiReview.Text ApiReview.WordEnding

variable {word form : String} {inflect : String → String} {d : Char}

/-! ## Capitals taken over -/

theorem lower_filled (filled : word ≠ "") : lower word ≠ "" := by
  obtain ⟨c, rest, shape⟩ := List.exists_cons_of_ne_nil (mt String.toList_eq_nil_iff.mp filled)
  rw [lower, lowerChars, shape, ne_eq, ← String.toList_eq_nil_iff, String.toList_ofList]
  exact (lowerAfter_filled c rest).2

theorem lower_ofList_of_lowered {chars : List Char} (lowered : ∀ c ∈ chars, Letter.lower c = [c]) :
    lower (String.ofList chars) = String.ofList chars := by
  rw [lower, lowerChars, String.toList_ofList, lowerAfter_of_lowered lowered]

/-- A form that took over a capital is lowered back to the form. -/
theorem lower_matchCapital (lowered : ∀ c ∈ form.toList, Letter.lower c = [c])
    (returns : startsUpper word.toList = true → ∀ c, form.toList.head? = some c → Letter.Returns c) :
    lower (matchCapital word form) = form := by
  have stays := lower_ofList_of_lowered lowered
  rw [String.ofList_toList] at stays
  rw [matchCapital]
  split
  · rename_i capital
    split
    · exact stays
    · rename_i c rest shape
      rw [shape] at lowered
      obtain ⟨large, raised, back⟩ := returns capital c (by rw [shape, List.head?_cons])
      rw [raised, List.singleton_append, lower, String.toList_ofList, lowerChars, lowerAfter_start,
        back, lowerAfter_of_lowered fun d among => lowered d (List.mem_cons_of_mem _ among),
        List.singleton_append, ← shape, String.ofList_toList]
  · exact stays

/-- If one form of a capital word is lowered back to the word, then its first letter returns. -/
theorem returns_of_lower_matchCapital (filled : word ≠ "")
    (spelled : Spelled (lower word).toList form.toList) (capital : startsUpper word.toList = true)
    (same : lower (matchCapital word form) = lower word) :
    ∀ c, (lower word).toList.head? = some c → Letter.Returns c := by
  intro c starts
  rw [matchCapital, if_pos capital] at same
  cases shape : form.toList with
  | nil =>
      -- an empty form is lowered to an empty word
      rw [shape, String.toList_eq_nil_iff.mp shape] at same
      exact absurd same.symm (lower_filled filled)
  | cons first rest =>
      rw [shape] at same spelled
      simp only at same
      rw [← same, lower, String.toList_ofList, lowerChars, String.toList_ofList] at starts
      have own : (lower word).toList.head? = some c := by
        rw [← same, lower, String.toList_ofList, lowerChars, String.toList_ofList, starts]
      rcases spelled.start first rfl with kept | returns
      · rw [kept] at own
        cases own
        exact Letter.returns_of_head? starts
      · obtain ⟨large, raised, back⟩ := returns
        rw [raised, List.singleton_append, (lowerAfter_filled _ _).1, back] at starts
        cases starts
        exact ⟨large, raised, back⟩

theorem lowered_of_spelled (spelled : Spelled (lower word).toList form.toList) :
    ∀ c ∈ form.toList, Letter.lower c = [c] := by
  intro c among
  rcases spelled.among c among with kept | small
  · rw [lower, String.toList_ofList] at kept
    exact lower_of_mem_lowerAfter kept
  · exact Letter.lower_of_isAsciiLower small

/-- A sign in a form that took over a capital was in the word. -/
theorem mem_of_mem_matchCapital (mark : Letter.isMark d = true)
    (spelled : Spelled (lower word).toList form.toList)
    (among : d ∈ (matchCapital word form).toList) : d ∈ word.toList := by
  have inside : d ∈ form.toList := by
    rw [matchCapital] at among
    split at among
    · split at among
      · exact among
      · rename_i c rest shape
        rw [String.toList_ofList] at among
        rw [shape]
        rcases List.mem_append.mp among with start | behind
        · exact Letter.eq_of_isMark_upper mark start ▸ List.mem_cons_self
        · exact List.mem_cons_of_mem _ behind
    · exact among
  rcases spelled.among d inside with kept | small
  · rw [lower, String.toList_ofList] at kept
    exact mem_of_mem_lowerAfter mark kept
  · rw [Letter.not_isMark_of_isAsciiLower small] at mark
    cases mark

/-! ## Words that are no verbs -/

/-- A word that starts like no action verb is the third person form of none. -/
theorem ofWord_of_other_start {word : String}
    (other : ∀ verb ∈ Lexicon.actionVerbs, verb.toList.head? ≠ word.toList.head?) :
    Lexicon.actionVerbs.contains word = false ∧ Tag.ofWord word = WordShape.tag word.toList := by
  have keeps : (Lexicon.actionVerbs.all fun verb => keepsStart verb.toList) = true := by
    decide +kernel
  have noVerb : Lexicon.actionVerbs.contains word = false := by
    rw [Bool.eq_false_iff, ne_eq, List.contains_iff_mem]
    exact fun listed => other word listed rfl
  have noForm : thirdPersonForms.contains word = false := by
    rw [Bool.eq_false_iff, ne_eq, List.contains_iff_mem]
    intro listed
    obtain ⟨verb, among, rfl⟩ := List.mem_map.mp listed
    exact other verb among (WordEnding.head?_pluralize (List.all_eq_true.mp keeps verb among)).symm
  refine ⟨noVerb, ?_⟩
  rw [Tag.ofWord, noVerb, noForm]
  rfl

/-- A word that starts like no action verb is a verb by its shape only. -/
theorem not_isVerb_of_other_start {word : String} (context : WordContext)
    (other : ∀ verb ∈ Lexicon.actionVerbs, verb.toList.head? ≠ word.toList.head?)
    (shape : (WordShape.tag word.toList).isVerb = false) :
    LowerWord.isVerb word context = false := by
  obtain ⟨noVerb, tagged⟩ := ofWord_of_other_start other
  have unread : LowerWord.tag word .general = WordShape.tag word.toList := tagged
  unfold LowerWord.isVerb
  rw [noVerb, unread, shape, if_neg Bool.false_ne_true]
  split <;> rfl

end ApiReview
