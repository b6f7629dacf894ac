import ApiReview.Proofs.Word.Endings
import ApiReview.Word.Vocabulary

/-! Plurals that are taken for singulars. Each word has a plural, and the singular of
that is another word, unless the plural ends like one of a few singulars in `s`, such
as `alias`, `bus` or `news`, which the rules leave as they are, or the word tables hold
it as a singular or an uncountable. -/

set_option autoImplicit false

namespace ApiReview.Lexicon

variable {singular plural : String}

theorem mem_of_irregularPlural? (found : irregularPlural? singular = some plural) :
    (singular, plural) ∈ irregularNouns := by
  obtain ⟨front, back, table, -⟩ := List.lookup_eq_some_iff.mp found
  exact table ▸ by simp

theorem mem_of_irregularSingular? (found : irregularSingular? plural = some singular) :
    (singular, plural) ∈ irregularNouns := by
  obtain ⟨front, back, table, -⟩ := List.lookup_eq_some_iff.mp found
  have listed : (plural, singular) ∈ front ++ (plural, singular) :: back := by simp
  rw [← table] at listed
  obtain ⟨⟨first, second⟩, inside, shape⟩ := List.mem_map.mp listed
  cases shape
  exact inside

end ApiReview.Lexicon

namespace ApiReview.WordEnding

open ApiReview.Text

variable {pattern : Form} {word other taken front kept old tail result : List Char}
  {rule : Rule} {stem ending : Form}

/-! ## Ends of words -/

def trunk (word : List Char) : List Char := if word.getLast? = some '\n' then word.dropLast else word

theorem isWordEnd_iff : isWordEnd tail = true ↔ tail = [] ∨ tail = ['\n'] := by
  simp [isWordEnd]

theorem exists_trunk (word : List Char) : ∃ tail, word = trunk word ++ tail ∧ isWordEnd tail = true := by
  rw [trunk]
  split
  · rename_i ends
    exact ⟨['\n'], (List.dropLast_append_getLast? '\n' ends).symm, rfl⟩
  · exact ⟨[], (List.append_nil word).symm, rfl⟩

/-- Whether a form ends in something else than a line end. -/
def isClosed (pattern : Form) : Bool := pattern.getLast?.any fun test => !test.accepts '\n'

theorem trunk_append (closed : isClosed pattern = true) (fits : Fits pattern taken)
    (ends : isWordEnd tail = true) : trunk (front ++ (taken ++ tail)) = front ++ taken := by
  rw [isClosed, Option.any_eq_true] at closed
  obtain ⟨test, last, rejects⟩ := closed
  obtain ⟨before, rfl⟩ := List.getLast?_eq_some_iff.mp last
  obtain ⟨start, behind, rfl, -, lastFits⟩ := Fits.append_iff.mp fits
  obtain ⟨c, none_more, accepted, noneFits, rfl⟩ := List.forall₂_cons_left_iff.mp lastFits
  cases List.forall₂_nil_left_iff.mp noneFits
  have other : c ≠ '\n' := by
    rintro rfl
    rw [accepted] at rejects
    cases rejects
  rcases isWordEnd_iff.mp ends with rfl | rfl
  · simp [trunk, ← List.append_assoc, other]
  · simp [trunk, ← List.append_assoc]

/-! ## Idle rules -/

/-- The forms at the end of a word for which a rule puts back what it takes. -/
def Rule.idleForms (rule : Rule) : List Form :=
  rule.stems.flatMap fun stem =>
    (rule.endings.filter fun ending => decide (Fits ending rule.replacement.toList)).map fun _ =>
      stem ++ exact rule.replacement.toList

/-- The forms that the singular rules leave as they are, at the end of a word or, where marked so,
as the whole word. -/
def idleForms : List (Bool × Form) :=
  [(false, form "alias"), (false, form "status"), (false, form "octop" ++ exact "us".toList),
   (false, form "vir" ++ exact "us".toList), (true, form "a" ++ exact "xis".toList),
   (false, form "cris" ++ exact "is".toList), (false, form "test" ++ exact "is".toList),
   (false, form "bus"), (false, form "s" ++ exact "eries".toList),
   (false, form "t" ++ exact "hesis".toList), (false, form "s" ++ exact "ynopsis".toList),
   (false, form "p" ++ exact "rognosis".toList), (false, form "p" ++ exact "arenthesis".toList),
   (false, form "d" ++ exact "iagnosis".toList), (false, form "b" ++ exact "asis".toList),
   (false, form "a" ++ exact "nalysis".toList), (false, form "n" ++ exact "ews".toList),
   (false, form "ss")]

/-- Whether the singular rules leave a word as it is, though one of them applies. -/
def isIdle (word : List Char) : Bool :=
  !decide (Fits (form "oxen") (word.take 4)) && idleForms.any fun (isWhole, pattern) =>
    decide (Fits pattern
      ((trunk word).drop (if isWhole then 0 else (trunk word).length - pattern.length)))

/-- Whether a rule does not apply in another way to a word that ends in an idle form of a later
one. -/
def yields (earlier later : Rule) : Bool :=
  !earlier.atEnd || earlier.stems.all fun stem => earlier.endings.all fun ending =>
    later.idleForms.all fun pattern => !meets (stem ++ ending) pattern ||
      (decide (ending.length ≤ later.replacement.toList.length) &&
        earlier.replacement.toList == later.replacement.toList.drop
          (later.replacement.toList.length - ending.length))

/-- What the order of the singular rules sees to, and the one rule that need not end a word. -/
theorem order_singularRules :
    (singularRules.flatMap fun rule => rule.idleForms.map fun pattern => (rule.atStart, pattern)) =
      idleForms ∧
    singularRules.Pairwise (fun earlier later =>
      yields earlier later = true ∧ (later.atEnd = false → earlier.idleForms = [])) ∧
    ∀ rule ∈ singularRules, yields rule rule = true ∧
      (rule.atEnd = false → rule.idleForms = [] ∧ rule.atStart = true ∧
        rule.stems = [form "ox"] ∧ rule.endings = [form "en"]) ∧
      ∀ stem ∈ rule.stems, ∀ ending ∈ rule.endings, isClosed (stem ++ ending) = true := by
  decide +kernel

theorem fits_drop_iff : Fits pattern (word.drop (word.length - pattern.length)) ↔
    ∃ front taken, word = front ++ taken ∧ Fits pattern taken := by
  constructor
  · exact fun fits => ⟨_, _, (List.take_append_drop _ _).symm, fits⟩
  · rintro ⟨front, taken, rfl, fits⟩
    rw [fits.length_eq, List.length_append, Nat.add_sub_cancel, List.drop_left]
    exact fits

/-- An idle word ends in what a singular rule puts back. -/
theorem isIdle_iff : isIdle word = true ↔ ¬ Fits (form "oxen") (word.take 4) ∧
    ∃ rule ∈ singularRules, ∃ pattern ∈ rule.idleForms, ∃ front taken,
      trunk word = front ++ taken ∧ Fits pattern taken ∧ (rule.atStart = true → front = []) := by
  rw [isIdle, Bool.and_eq_true, Bool.not_eq_true', decide_eq_false_iff_not, List.any_eq_true]
  refine and_congr_right fun _ => ?_
  rw [← order_singularRules.1]
  constructor
  · rintro ⟨⟨isWhole, pattern⟩, listed, fits⟩
    obtain ⟨rule, among, listed⟩ := List.mem_flatMap.mp listed
    obtain ⟨pattern, own, shape⟩ := List.mem_map.mp listed
    cases shape
    refine ⟨rule, among, pattern, own, ?_⟩
    cases whole : rule.atStart with
    | true =>
        rw [whole] at fits
        exact ⟨[], trunk word, rfl, by simpa using fits, fun _ => rfl⟩
    | false =>
        rw [whole] at fits
        obtain ⟨front, taken, split, fits⟩ := fits_drop_iff.mp (of_decide_eq_true fits)
        exact ⟨front, taken, split, fits, fun claimed => nomatch claimed⟩
  · rintro ⟨rule, among, pattern, own, front, taken, split, fits, start⟩
    refine ⟨(rule.atStart, pattern), List.mem_flatMap.mpr ⟨rule, among,
      List.mem_map.mpr ⟨pattern, own, rfl⟩⟩, decide_eq_true ?_⟩
    cases whole : rule.atStart with
    | true =>
        rw [start whole, List.nil_append] at split
        simpa [split] using fits
    | false => exact fits_drop_iff.mpr ⟨front, taken, split, fits⟩

theorem mem_idleForms : pattern ∈ rule.idleForms ↔ ∃ stem ∈ rule.stems, ∃ ending ∈ rule.endings,
    Fits ending rule.replacement.toList ∧ pattern = stem ++ exact rule.replacement.toList := by
  simp only [Rule.idleForms, List.mem_flatMap, List.mem_map, List.mem_filter, decide_eq_true_eq]
  constructor
  · rintro ⟨stem, listed, ending, ⟨own, fits⟩, rfl⟩
    exact ⟨stem, listed, ending, own, fits, rfl⟩
  · rintro ⟨stem, listed, ending, own, fits, rfl⟩
    exact ⟨stem, listed, ending, ⟨own, fits⟩, rfl⟩

/-- The rule that takes `oxen` apart, whatever is behind it. -/
def oxenRule : Rule :=
  { atStart := true, stems := forms ["ox"], endings := forms ["en"], atEnd := false,
    replacement := "" }

theorem oxenRule_mem : oxenRule ∈ singularRules := List.mem_of_getElem? (i := 13) rfl

theorem oxenRule_applies (oxen : Fits (form "oxen") (word.take 4)) :
    (oxenRule.inflect? word).isSome := by
  have split : form "oxen" = form "ox" ++ form "en" := by decide
  rw [split] at oxen
  obtain ⟨kept, old, taken, stem, ending⟩ := Fits.append_iff.mp oxen
  have stands : oxenRule.Stands (form "ox") (form "en") word [] kept old (word.drop 4) := by
    refine ⟨?_, ⟨List.mem_singleton.mpr rfl, List.mem_singleton.mpr rfl⟩, stem, ending,
      fun _ => rfl, nofun⟩
    rw [List.nil_append, ← List.append_assoc, ← taken, List.take_append_drop]
  exact Rule.inflect?_isSome stands

/-- A rule applies to a word that ends in one of its idle forms. -/
theorem inflect?_of_idleForm (idle : pattern ∈ rule.idleForms) (fits : Fits pattern taken)
    (ends : trunk word = front ++ taken) (atStart : rule.atStart = true → front = []) :
    (rule.inflect? word).isSome := by
  obtain ⟨stem, stemListed, ending, endingListed, puts, rfl⟩ := mem_idleForms.mp idle
  obtain ⟨kept, old, rfl, stemFits, oldFits⟩ := Fits.append_iff.mp fits
  cases fits_exact.mp oldFits
  obtain ⟨tail, whole, wordEnd⟩ := exists_trunk word
  have stands : rule.Stands stem ending word front kept rule.replacement.toList tail := by
    refine ⟨?_, ⟨stemListed, endingListed⟩, stemFits, puts, atStart, fun _ => wordEnd⟩
    rw [whole, ends]
    simp only [List.append_assoc]
  exact Rule.inflect?_isSome stands

/-- The first singular rule that applies to a word yields to every other one that does. -/
theorem exists_first (found : singularRules.findSome? (·.inflect? word) = some result) :
    ∃ rule ∈ singularRules, rule.inflect? word = some result ∧
      ∀ other ∈ singularRules, (other.inflect? word).isSome →
        yields rule other = true ∧ (other.atEnd = false → rule.idleForms = []) := by
  obtain ⟨earlier, rule, later, table, applied, skipped⟩ := List.findSome?_eq_some_iff.mp found
  have listed : rule ∈ singularRules := table ▸ by simp
  refine ⟨rule, listed, applied, fun other among applies => ?_⟩
  rw [table] at among
  rcases List.mem_append.mp among with before | among
  · rw [skipped other before] at applies
    cases applies
  · rcases List.mem_cons.mp among with rfl | behind
    · have own := order_singularRules.2.2 other listed
      exact ⟨own.1, fun anywhere => (own.2.1 anywhere).1⟩
    · have ordered := order_singularRules.2.1
      rw [table, List.pairwise_append, List.pairwise_cons] at ordered
      exact ordered.2.1.1 other behind

section First

variable (listed : rule ∈ singularRules)
  (stands : rule.Stands stem ending word front kept old tail)
  (first : ∀ other ∈ singularRules, (other.inflect? word).isSome →
    yields rule other = true ∧ (other.atEnd = false → rule.idleForms = []))

include listed stands

theorem atEnd_of_not_oxen (noOxen : ¬ Fits (form "oxen") (word.take 4)) : rule.atEnd = true := by
  by_contra anywhere
  obtain ⟨-, start, stems, endings⟩ :=
    (order_singularRules.2.2 rule listed).2.1 (Bool.not_eq_true _ ▸ anywhere)
  have shape := stands.listed
  rw [stems, endings, List.mem_singleton, List.mem_singleton] at shape
  have both := Fits.append_iff.mpr ⟨kept, old, rfl, stands.kept, stands.old⟩
  rw [shape.1, shape.2] at both
  have length : (kept ++ old).length = 4 := both.length_eq.symm
  refine noOxen ?_
  rw [stands.split, stands.atStart start, List.nil_append, ← List.append_assoc,
    List.take_left' length]
  exact both

theorem trunk_of_stands (atEnd : rule.atEnd = true) : trunk word = front ++ (kept ++ old) := by
  have closed := (order_singularRules.2.2 rule listed).2.2 stem stands.listed.1 ending
    stands.listed.2
  have both := Fits.append_iff.mpr ⟨kept, old, rfl, stands.kept, stands.old⟩
  rw [stands.split, ← List.append_assoc kept, trunk_append closed both (stands.atEnd atEnd)]

include first

theorem isIdle_of_same (same : rule.replacement.toList = old) : isIdle word = true := by
  have idle : stem ++ exact rule.replacement.toList ∈ rule.idleForms :=
    mem_idleForms.mpr ⟨stem, stands.listed.1, ending, stands.listed.2, same ▸ stands.old, rfl⟩
  have noOxen : ¬ Fits (form "oxen") (word.take 4) := by
    intro oxen
    rw [(first oxenRule oxenRule_mem (oxenRule_applies oxen)).2 rfl] at idle
    cases idle
  have fits := Fits.append_iff.mpr ⟨kept, old, rfl, stands.kept, fits_exact.mpr same.symm⟩
  have ends := trunk_of_stands listed stands (atEnd_of_not_oxen listed stands noOxen)
  exact isIdle_iff.mpr ⟨noOxen, rule, listed, _, idle, front, _, ends, fits, stands.atStart⟩

theorem same_of_isIdle (idle : isIdle word = true) : rule.replacement.toList = old := by
  obtain ⟨noOxen, later, laterListed, pattern, idle, before, taken, ends, fits, atStart⟩ :=
    isIdle_iff.mp idle
  have atEnd := atEnd_of_not_oxen listed stands noOxen
  have isBehind := (first later laterListed (inflect?_of_idleForm idle fits ends atStart)).1
  -- both forms end the word, so that the check says how the replacements are related
  have both := Fits.append_iff.mpr ⟨kept, old, rfl, stands.kept, stands.old⟩
  have here := (trunk_of_stands listed stands atEnd).symm.trans ends
  rw [yields, atEnd, Bool.not_true, Bool.false_or, List.all_eq_true] at isBehind
  have checked := List.all_eq_true.mp (List.all_eq_true.mp (isBehind stem stands.listed.1) ending
    stands.listed.2) _ idle
  rw [meets_of_ends both fits here, Bool.not_true, Bool.false_or, Bool.and_eq_true,
    decide_eq_true_eq, beq_iff_eq, stands.old.length_eq] at checked
  obtain ⟨otherStem, -, otherEnding, -, -, rfl⟩ := mem_idleForms.mp idle
  obtain ⟨otherKept, otherOld, rfl, -, oldFits⟩ := Fits.append_iff.mp fits
  cases fits_exact.mp oldFits
  have inside : old <:+ later.replacement.toList :=
    List.suffix_of_suffix_length_le ⟨front ++ kept, List.append_assoc ..⟩
      ⟨before ++ otherKept, (List.append_assoc ..).trans here.symm⟩ checked.1
  rw [checked.2]
  exact (List.suffix_iff_eq_drop.mp inside).symm

end First

/-- Where a singular rule applies, the rules leave the word as it is if and only if it is idle. -/
theorem findSome?_singularRules_iff (applies : ∃ rule ∈ singularRules, (rule.inflect? word).isSome) :
    (singularRules.findSome? (·.inflect? word)).getD word = word ↔ isIdle word = true := by
  obtain ⟨result, found⟩ := Option.isSome_iff_exists.mp (List.findSome?_isSome_iff.mpr applies)
  obtain ⟨rule, listed, applied, first⟩ := exists_first found
  obtain ⟨stem, ending, front, kept, old, tail, stands, rfl⟩ := Rule.inflect?_ok applied
  rw [found, Option.getD_some]
  constructor
  · intro same
    rw [stands.split] at same
    exact isIdle_of_same listed stands first
      (List.append_cancel_right (List.append_cancel_left (List.append_cancel_left same)))
  · intro idle
    rw [same_of_isIdle listed stands first idle, ← stands.split]

/-! ## Plurals by rule -/

/-- Whether every word that ends in a form ends in the pattern of some singular rule. -/
def isCovered (pattern : Form) : Bool :=
  singularRules.any fun rule => !rule.atStart && rule.stems.any fun stem =>
    rule.endings.any fun ending => endsWithin pattern (stem ++ ending)

theorem isCovered_pluralRules : isCovered (form "s") = true ∧
    ∀ rule ∈ pluralRules, rule.atEnd = true ∧ ∀ stem ∈ rule.stems, ∀ ending ∈ rule.endings,
      isCovered (stem ++ exact rule.replacement.toList) = true ∨
        (rule.atStart = true ∧ (stem ++ exact rule.replacement.toList).length = 4 ∧
          endsWithin (stem ++ exact rule.replacement.toList) (form "oxen") = true) := by
  decide +kernel

/-- A singular rule applies to a word that ends in a form that is covered. -/
theorem exists_applies (covered : isCovered pattern = true) (fits : Fits pattern taken)
    (ends : isWordEnd tail = true) :
    ∃ rule ∈ singularRules, (rule.inflect? (front ++ (taken ++ tail))).isSome := by
  obtain ⟨rule, listed, covered⟩ := List.any_eq_true.mp covered
  rw [Bool.and_eq_true, Bool.not_eq_true', List.any_eq_true] at covered
  obtain ⟨anywhere, stem, stemListed, covered⟩ := covered
  obtain ⟨ending, endingListed, within⟩ := List.any_eq_true.mp covered
  obtain ⟨before, found, rfl, both⟩ := fits_of_endsWithin fits within
  obtain ⟨kept, old, rfl, stemFits, endingFits⟩ := Fits.append_iff.mp both
  have stands : rule.Stands stem ending (front ++ (before ++ (kept ++ old) ++ tail))
      (front ++ before) kept old tail := by
    refine ⟨by simp, ⟨stemListed, endingListed⟩, stemFits, endingFits, ?_, fun _ => ends⟩
    rw [anywhere]
    exact nofun
  exact ⟨rule, listed, Rule.inflect?_isSome stands⟩

theorem exists_applies_s (front : List Char) :
    ∃ rule ∈ singularRules, (rule.inflect? (front ++ ['s'])).isSome := by
  have fits : Fits (form "s") ['s'] := .cons (by decide) .nil
  exact exists_applies isCovered_pluralRules.1 fits (show isWordEnd [] = true from rfl)

/-- A singular rule applies to every plural that was made by a rule. -/
theorem exists_applies_plural (listed : rule ∈ pluralRules)
    (read : rule.inflect? word = some result) :
    ∃ rule ∈ singularRules, (rule.inflect? result).isSome := by
  obtain ⟨stem, ending, front, kept, old, tail, stands, rfl⟩ := Rule.inflect?_ok read
  obtain ⟨atEnd, checked⟩ := isCovered_pluralRules.2 rule listed
  have covered := checked stem stands.listed.1 ending stands.listed.2
  have fits := Fits.append_iff.mpr
    ⟨kept, rule.replacement.toList, rfl, stands.kept, fits_exact.mpr rfl⟩
  rw [← List.append_assoc kept]
  rcases covered with covered | ⟨atStart, four, oxen⟩
  · exact exists_applies covered fits (stands.atEnd atEnd)
  · refine ⟨oxenRule, oxenRule_mem, oxenRule_applies ?_⟩
    obtain ⟨before, found, split, both⟩ := fits_of_endsWithin fits oxen
    have length : found.length = 4 := both.length_eq.symm
    have nothing : before = [] := by
      have whole := fits.length_eq.symm.trans four
      rw [split, List.length_append, length] at whole
      exact List.eq_nil_of_length_eq_zero (by omega)
    rw [stands.atStart atStart, List.nil_append, split, nothing, List.nil_append,
      List.take_left' length]
    exact both

theorem endsUncountable_of_mem :
    ∀ word ∈ Lexicon.generalUncountables, endsUncountable word.toList = true := by decide +kernel

/-- What the singular rules meet in a plural: an uncountable, or a rule that applies. -/
theorem applies_pluralize {word : String} (filled : word ≠ "") :
    endsUncountable (pluralize word).toList = true ∨
      ∃ rule ∈ singularRules, (rule.inflect? (pluralize word).toList).isSome := by
  rw [pluralize]
  split
  · rename_i fixed
    have empty : word.isEmpty = false := by simpa using filled
    rw [empty, Bool.false_or] at fixed
    exact .inl (endsUncountable_of_mem word (List.contains_iff_mem.mp fixed))
  · right
    rw [String.toList_ofList]
    cases found : pluralRules.findSome? (·.inflect? word.toList) with
    | some result =>
        obtain ⟨rule, listed, read⟩ := List.exists_of_findSome?_eq_some found
        exact exists_applies_plural listed read
    | none =>
        rw [Option.getD_none, addS]
        split
        · rw [show ['s', '\n', 's'] = ['s', '\n'] ++ ['s'] from rfl, ← List.append_assoc]
          exact exists_applies_s _
        · exact exists_applies_s _

end ApiReview.WordEnding

namespace ApiReview.LowerWord

open ApiReview.Text ApiReview.WordEnding

variable {word : String}

/-- Whether a word is left as it is when it is made singular, by the tables or by the rules. -/
def isSettled (word : String) : Bool :=
  (Lexicon.irregularSingular? word).isNone && ((Lexicon.irregularPlural? word).isSome ||
    Lexicon.pathUncountables.contains word || endsUncountable word.toList || isIdle word.toList)

theorem apart_irregularNouns : ∀ entry ∈ Lexicon.irregularNouns,
    entry.1 ≠ entry.2 ∧ (Lexicon.irregularSingular? entry.2).isSome := by decide +kernel

theorem singularize_eq_iff (applies : (Lexicon.irregularSingular? word).isSome ∨
      (Lexicon.irregularPlural? word).isSome ∨ Lexicon.pathUncountables.contains word = true ∨
      endsUncountable word.toList = true ∨
      ∃ rule ∈ singularRules, (rule.inflect? word.toList).isSome) :
    singularize word = word ↔ isSettled word = true := by
  rw [singularize, isSettled]
  cases irregular : Lexicon.irregularSingular? word with
  | some singular =>
      simpa using (apart_irregularNouns _ (Lexicon.mem_of_irregularSingular? irregular)).1
  | none =>
      simp only [irregular, Option.isSome_none, Bool.false_eq_true, false_or] at applies
      simp only [Option.isNone_none, Bool.true_and]
      split
      · rename_i listed
        simp [listed]
      · rename_i unlisted
        split
        · rename_i uncountable
          simp only [uncountable, Bool.or_true, Bool.true_or]
        · rename_i countable
          rw [Bool.not_eq_true] at unlisted countable
          simp only [unlisted, countable, Bool.false_eq_true, false_or, Bool.false_or] at applies ⊢
          rw [WordEnding.singularize]
          split
          · rename_i ends
            simp [ends]
          · rename_i free
            rw [Bool.not_eq_true] at free
            have someRule := applies.resolve_left (by simp [free])
            rw [free, Bool.false_or, ← findSome?_singularRules_iff someRule, ← String.toList_inj,
              String.toList_ofList]

/-- The singular of a plural is the plural itself if and only if that is settled. -/
theorem singularize_pluralize_iff (filled : word ≠ "") :
    singularize (pluralize word) = pluralize word ↔ isSettled (pluralize word) = true := by
  refine singularize_eq_iff ?_
  rw [pluralize]
  split
  · rename_i uncountable
    exact .inr (.inr (.inl uncountable))
  · split
    · rename_i plural found
      exact .inl (apart_irregularNouns _ (Lexicon.mem_of_irregularPlural? found)).2
    · split
      · rename_i known
        exact .inl known
      · split
        · rename_i ends
          rw [hasPluralEnding, Bool.and_eq_true, endsWith, List.isSuffixOf_iff_suffix] at ends
          obtain ⟨front, split⟩ := ends.1
          refine .inr (.inr (.inr (.inr ?_)))
          rw [← split]
          exact exists_applies_s front
        · exact .inr (.inr (.inr (applies_pluralize filled)))

end ApiReview.LowerWord
