import Mathlib
import ApiReview.Word.Ending

/-! What the rules for endings do to a word. A rule applies where its pattern stands:
it keeps what is in front and the stem, and puts its replacement in the place of the
ending. Whether two patterns can end the same word, or every word that ends in one
ends in the other, is seen from their tests, compared from the end. -/

set_option autoImplicit false

namespace ApiReview.WordEnding

open ApiReview.Text

variable {form first second : Form} {text taken behind front kept old tail result : List Char}
  {rule : Rule} {rules : List Rule}

/-! ## Forms -/

/-- Whether a text passes the tests of a form one by one. -/
abbrev Fits (form : Form) (text : List Char) : Prop :=
  List.Forall₂ (fun test c => test.accepts c = true) form text

theorem take?_eq_some_iff :
    take? form text = some (taken, behind) ↔ text = taken ++ behind ∧ Fits form taken := by
  induction form generalizing text taken with
  | nil =>
      simp only [take?, Option.some.injEq, Prod.mk.injEq, List.forall₂_nil_left_iff]
      constructor
      · rintro ⟨rfl, rfl⟩
        exact ⟨rfl, rfl⟩
      · rintro ⟨rfl, rfl⟩
        exact ⟨rfl, rfl⟩
  | cons test tests ih =>
      cases text with
      | nil =>
          simp only [take?, reduceCtorEq, false_iff]
          rintro ⟨empty, fits⟩
          obtain ⟨c, rest, -, -, rfl⟩ := List.forall₂_cons_left_iff.mp fits
          cases empty
      | cons c rest =>
          rw [take?]
          constructor
          · intro read
            split at read
            · rename_i accepted
              obtain ⟨⟨inside, after⟩, further, shape⟩ := Option.map_eq_some_iff.mp read
              cases shape
              obtain ⟨rfl, fits⟩ := ih.mp further
              exact ⟨rfl, .cons accepted fits⟩
            · cases read
          · rintro ⟨shape, fits⟩
            obtain ⟨d, inside, accepted, further, rfl⟩ := List.forall₂_cons_left_iff.mp fits
            rw [List.cons_append] at shape
            obtain ⟨rfl, rfl⟩ := List.cons.inj shape
            rw [if_pos accepted, ih.mpr ⟨rfl, further⟩, Option.map_some]

theorem Fits.append_iff : Fits (first ++ second) text ↔
    ∃ kept old, text = kept ++ old ∧ Fits first kept ∧ Fits second old := by
  constructor
  · intro fits
    refine ⟨text.take first.length, text.drop first.length, (List.take_append_drop ..).symm, ?_, ?_⟩
    · have front := List.forall₂_take first.length fits
      rwa [List.take_left] at front
    · have back := List.forall₂_drop first.length fits
      rwa [List.drop_left] at back
  · rintro ⟨kept, old, rfl, stem, ending⟩
    exact List.rel_append stem ending

/-- The form of exactly one text. -/
def exact (text : List Char) : Form := text.map .exactly

theorem fits_exact : Fits (exact text) taken ↔ taken = text := by
  induction text generalizing taken with
  | nil => exact List.forall₂_nil_left_iff
  | cons c rest ih =>
      constructor
      · intro fits
        obtain ⟨d, more, accepted, further, rfl⟩ := List.forall₂_cons_left_iff.mp fits
        rw [ih.mp further, eq_of_beq accepted]
      · rintro rfl
        exact .cons (beq_self_eq_true c) (ih.mpr rfl)

/-! ## Rules -/

/-- Where the pattern of a rule stands in a text, with what is around it. -/
structure Rule.Stands (rule : Rule) (stem ending : Form) (text front kept old tail : List Char) :
    Prop where
  split : text = front ++ (kept ++ (old ++ tail))
  listed : stem ∈ rule.stems ∧ ending ∈ rule.endings
  kept : Fits stem kept
  old : Fits ending old
  atStart : rule.atStart = true → front = []
  atEnd : rule.atEnd = true → isWordEnd tail = true

theorem Rule.inflectHere?_ok (read : rule.inflectHere? text = some result) :
    ∃ stem ending kept old tail, rule.Stands stem ending text [] kept old tail ∧
      result = kept ++ rule.replacement.toList ++ tail := by
  obtain ⟨stem, stemListed, tried⟩ := List.exists_of_findSome?_eq_some read
  obtain ⟨⟨kept, rest⟩, stemTaken, tried⟩ := Option.bind_eq_some_iff.mp tried
  obtain ⟨ending, endingListed, replaced⟩ := List.exists_of_findSome?_eq_some tried
  obtain ⟨⟨old, tail⟩, endingTaken, inserted⟩ := Option.bind_eq_some_iff.mp replaced
  obtain ⟨rfl, stemFits⟩ := take?_eq_some_iff.mp stemTaken
  obtain ⟨rfl, endingFits⟩ := take?_eq_some_iff.mp endingTaken
  obtain ⟨ends, shape⟩ := Option.ite_none_left_eq_some.mp inserted
  refine ⟨stem, ending, kept, old, tail, ⟨rfl, ⟨stemListed, endingListed⟩, stemFits, endingFits,
    fun _ => rfl, fun atEnd => ?_⟩, (Option.some.inj shape).symm⟩
  simpa [atEnd] using ends

theorem Rule.inflectHere?_isSome {stem ending : Form}
    (stands : rule.Stands stem ending text [] kept old tail) : (rule.inflectHere? text).isSome := by
  rw [Rule.inflectHere?, List.findSome?_isSome_iff]
  refine ⟨stem, stands.listed.1, ?_⟩
  have taken : take? stem text = some (kept, old ++ tail) :=
    take?_eq_some_iff.mpr ⟨stands.split, stands.kept⟩
  rw [taken, Option.bind_some, List.findSome?_isSome_iff]
  refine ⟨ending, stands.listed.2, ?_⟩
  have ends : ¬ (rule.atEnd && !isWordEnd tail) = true := by
    cases atEnd : rule.atEnd with
    | true => simp [stands.atEnd atEnd]
    | false => simp
  rw [take?_eq_some_iff.mpr ⟨rfl, stands.old⟩, Option.bind_some]
  simp only [if_neg ends, Option.isSome_some]

/-- A rule that applies replaces the ending of its pattern where the pattern stands. -/
theorem Rule.inflect?_ok (read : rule.inflect? text = some result) :
    ∃ stem ending front kept old tail, rule.Stands stem ending text front kept old tail ∧
      result = front ++ (kept ++ (rule.replacement.toList ++ tail)) := by
  induction text generalizing result with
  | nil =>
      obtain ⟨stem, ending, kept, old, tail, stands, rfl⟩ := Rule.inflectHere?_ok read
      exact ⟨stem, ending, [], kept, old, tail, stands, List.append_assoc ..⟩
  | cons c rest ih =>
      rw [Rule.inflect?] at read
      split at read
      · rename_i here
        cases read
        obtain ⟨stem, ending, kept, old, tail, stands, rfl⟩ := Rule.inflectHere?_ok here
        exact ⟨stem, ending, [], kept, old, tail, stands, List.append_assoc ..⟩
      · split at read
        · cases read
        · rename_i anywhere
          obtain ⟨behind, further, rfl⟩ := Option.map_eq_some_iff.mp read
          obtain ⟨stem, ending, front, kept, old, tail, stands, rfl⟩ := ih further
          exact ⟨stem, ending, c :: front, kept, old, tail, ⟨congrArg (c :: ·) stands.split,
            stands.listed, stands.kept, stands.old, fun atStart => absurd atStart anywhere,
            stands.atEnd⟩, rfl⟩

/-- A rule applies where its pattern stands, or further in front. -/
theorem Rule.inflect?_isSome {stem ending : Form}
    (stands : rule.Stands stem ending text front kept old tail) : (rule.inflect? text).isSome := by
  induction front generalizing text with
  | nil =>
      have here := Rule.inflectHere?_isSome stands
      cases text with
      | nil => exact here
      | cons c rest =>
          obtain ⟨result, found⟩ := Option.isSome_iff_exists.mp here
          rw [Rule.inflect?, found]
          rfl
  | cons c front ih =>
      obtain ⟨rest, rfl⟩ : ∃ rest, text = c :: rest := ⟨_, stands.split⟩
      have anywhere : rule.atStart = false := by
        rw [Bool.eq_false_iff]
        exact fun atStart => List.cons_ne_nil _ _ (stands.atStart atStart)
      rw [Rule.inflect?, anywhere]
      cases rule.inflectHere? (c :: rest) with
      | some result => rfl
      | none =>
          have further := ih ⟨(List.cons.inj stands.split).2, stands.listed, stands.kept,
            stands.old, fun atStart => absurd atStart (Bool.eq_false_iff.mp anywhere), stands.atEnd⟩
          simpa using further

/-! ## Comparing forms from the end -/

def CharTest.meets : CharTest → CharTest → Bool
  | .letter a, .letter b => a.toNat == b.toNat
  | .letter a, .exactly b => Letter.fold b == a
  | .letter a, .noneOf letters => !letters.contains a
  | .exactly a, .letter b => Letter.fold a == b
  | .exactly a, .exactly b => a.toNat == b.toNat
  | .exactly a, .noneOf letters => !letters.contains (Letter.fold a)
  | .noneOf letters, .letter b => !letters.contains b
  | .noneOf letters, .exactly b => !letters.contains (Letter.fold b)
  | .noneOf _, .noneOf _ => true

theorem CharTest.meets_of_accepts {test other : CharTest} {c : Char} (accepted : test.accepts c = true)
    (also : other.accepts c = true) : test.meets other = true := by
  cases test <;> cases other <;>
    simp only [CharTest.accepts, beq_iff_eq] at accepted also <;>
    simp_all [CharTest.meets]

/-- Whether whatever passes the first test passes the second. -/
def CharTest.within : CharTest → CharTest → Bool
  | .letter a, .letter b => a.toNat == b.toNat
  | .letter a, .noneOf letters => !letters.contains a
  | .exactly a, .letter b => Letter.fold a == b
  | .exactly a, .exactly b => a.toNat == b.toNat
  | .exactly a, .noneOf letters => !letters.contains (Letter.fold a)
  | .noneOf letters, .noneOf others => letters == others
  | _, _ => false

theorem CharTest.accepts_of_within {test other : CharTest} {c : Char} (within : test.within other = true)
    (accepted : test.accepts c = true) : other.accepts c = true := by
  cases test <;> cases other <;>
    simp only [CharTest.accepts, CharTest.within, beq_iff_eq, Char.toNat_inj] at accepted within <;>
    simp_all [CharTest.accepts]

def meetFronts : Form → Form → Bool
  | test :: tests, other :: others => test.meets other && meetFronts tests others
  | _, _ => true

def meets (first second : Form) : Bool := meetFronts first.reverse second.reverse

/-- Whether every text that starts in the first form starts in the second. -/
def startsWithin : Form → Form → Bool
  | _, [] => true
  | [], _ :: _ => false
  | test :: tests, other :: others => test.within other && startsWithin tests others

/-- Whether every text that ends in the first form ends in the second. -/
def endsWithin (first second : Form) : Bool := startsWithin first.reverse second.reverse

theorem meetFronts_of_fits {first second : Form} {left right more other : List Char}
    (fits : Fits first left) (also : Fits second right) (same : left ++ more = right ++ other) :
    meetFronts first second = true := by
  induction fits generalizing second right with
  | nil => rfl
  | cons accepted rest ih =>
      cases also with
      | nil => rfl
      | cons alsoAccepted alsoRest =>
          obtain ⟨rfl, further⟩ := List.cons.inj same
          rw [meetFronts, Bool.and_eq_true]
          exact ⟨CharTest.meets_of_accepts accepted alsoAccepted, ih alsoRest further⟩

theorem meets_of_ends {left right before other : List Char} (fits : Fits first left)
    (also : Fits second right) (same : before ++ left = other ++ right) :
    meets first second = true := by
  have reversed : left.reverse ++ before.reverse = right.reverse ++ other.reverse := by
    rw [← List.reverse_append, ← List.reverse_append, same]
  exact meetFronts_of_fits (List.rel_reverse fits) (List.rel_reverse also) reversed

theorem fits_of_startsWithin {first second : Form} {left : List Char} (fits : Fits first left)
    (within : startsWithin first second = true) :
    ∃ taken behind, left = taken ++ behind ∧ Fits second taken := by
  induction fits generalizing second with
  | nil =>
      cases second with
      | nil => exact ⟨[], [], rfl, .nil⟩
      | cons test tests => cases within
  | @cons test c tests left accepted rest ih =>
      cases second with
      | nil => exact ⟨[], c :: left, rfl, .nil⟩
      | cons other others =>
          rw [startsWithin, Bool.and_eq_true] at within
          obtain ⟨taken, behind, rfl, further⟩ := ih within.2
          exact ⟨c :: taken, behind, rfl, .cons (CharTest.accepts_of_within within.1 accepted) further⟩

theorem fits_of_endsWithin {left : List Char} (fits : Fits first left)
    (within : endsWithin first second = true) :
    ∃ before taken, left = before ++ taken ∧ Fits second taken := by
  obtain ⟨taken, behind, split, own⟩ := fits_of_startsWithin (List.rel_reverse fits) within
  refine ⟨behind.reverse, taken.reverse, ?_, ?_⟩
  · rw [← List.reverse_append, ← split, List.reverse_reverse]
  · have turned := List.rel_reverse own
    rwa [List.reverse_reverse] at turned

end ApiReview.WordEnding
