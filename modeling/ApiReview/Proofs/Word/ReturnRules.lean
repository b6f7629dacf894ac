import ApiReview.Proofs.Word.Spelling
import ApiReview.Proofs.Word.Turns

/-! Singulars of plurals, found from the word itself. On a word, on its plural and on the word
again, three rules have their turns: one that makes the plural, one that makes the singular
of that, and a return rule. All that can stand at the end of a word in such turns is compared
once, for every three rules whose patterns meet: either an earlier rule would have had the
turn, or the return rule gives what the other two give one after the other. -/

set_option autoImplicit false

namespace ApiReview.WordEnding

open ApiReview.Text

variable {word text base old : List Char} {known : Known}
  {plural singular back : Turn}

/-- What the singular rules make of the plural of a word, as rules for the word itself. They put
back what the plural leaves open, in the spelling of the rules. -/
def returnRules : List Rule :=
  [{ stems := [[]], endings := ["cow".toList.map .exactly], replacement := "cow" },
   ending ["z"] ["ombie", "omby"] "ombie",
   ending ["m"] ["ove", "ofe"] "ove",
   ending ["s"] ["ex", "exe"] "ex",
   ending ["c"] ["hild"] "hild",
   ending ["h"] ["uman"] "uman",
   ending ["m"] ["an"] "an",
   ending ["p"] ["erson"] "erson",
   ending ["database"] [""] "",
   ending ["databa"] ["sis"] "se",
   ending ["quiz"] ["ze"] "",
   ending ["matr"] ["ix", "ex", "ice"] "ix",
   ending ["vert", "ind"] ["ex", "ix", "ice"] "ex",
   ending ["passer"] ["by", "sby"] "by",
   ending ["alias", "status"] ["e"] "",
   ending ["statu"] [""] "s",
   ending ["alia", "statu"] ["sis"] "s",
   ending ["octop", "vir"] ["u"] "us",
   whole ["a"] ["x", "xe", "xi"] "xis",
   ending ["cris", "test"] ["e", "i"] "is",
   ending ["cri"] ["sis"] "sis",
   ending ["shoe"] [""] "",
   ending ["o"] ["e"] "",
   ending ["bus"] ["e"] "",
   ending ["bu"] ["s", "", "sis"] "s",
   ending ["m", "l"] ["ouse"] "ouse",
   ending ["x", "ch", "ss", "sh"] ["e"] "",
   ending ["s"] ["sis"] "s",
   ending ["m"] ["ovie", "ovy"] "ovie",
   ending ["s"] ["erie", "ery"] "eries",
   { stems := [[.noneOf ['a', 'e', 'i', 'o', 'u', 'y']], form "qu"], endings := forms ["ie", "y"],
     replacement := "y" },
   ending ["l", "r"] ["ve", "fe", "f"] "f",
   ending ["tive", "hive"] [""] "",
   ending ["ti", "hi"] ["fe"] "ve",
   { stems := [[.noneOf ['f']]], endings := forms ["ve", "fe"], replacement := "fe" },
   ending ["t"] ["hese", "hesi", "hesis"] "hesis",
   ending ["s"] ["ynopse", "ynopsi", "ynopsis"] "ynopsis",
   ending ["p"] ["rognose", "rognosi", "rognosis"] "rognosis",
   ending ["d"] ["iagnose", "iagnosi", "iagnosis"] "iagnosis",
   ending ["b"] ["ase", "asi", "asis"] "asis",
   ending ["a"] ["nalyse", "nalysi", "nalysis"] "nalysis",
   ending [""] ["sis"] "se",
   ending ["t", "i"] ["um"] "um",
   ending ["n"] ["ew"] "ews",
   ending ["buffal", "potat", "tomat"] ["o"] "o"]

/-! ## Three turns -/

namespace Turn

/-- What a turn on the plural tells of the word. -/
def asked (plural singular : Turn) : Known :=
  ⟨singular.pattern.form.take (singular.pattern.form.length - plural.new.length) ++ plural.ending,
    singular.rule.atStart⟩

/-- What is known of the plural of a word of which something is known. -/
def inPlural (plural : Turn) (known : Known) : Known :=
  ⟨known.form.take (known.form.length - plural.ending.length) ++ exact plural.new, known.isWhole⟩

/-- Whether another rule has its turn on each word of which something is known, or on its plural. -/
def precluded (plural singular : Turn) (known : Known) : Bool :=
  singular.earlier.any (·.covers (plural.inPlural known)) || plural.earlier.any (·.covers known)

def agrees (plural singular back : Turn) : Bool :=
  decide (plural.ending.length ≤ back.ending.length) &&
    singular.ending.length - plural.new.length == back.ending.length - plural.ending.length &&
    plural.new.take (plural.new.length - singular.ending.length) ++ singular.new == back.new

/-- Whether the rules give what a turn on the plural gives, in each of their turns on a word. -/
def composes (rules : List Rule) (plural singular : Turn) : Bool :=
  let known := plural.pattern.and (asked plural singular)
  precluded plural singular known ||
    (openTurns known [] (rules ++ [adding ""])).all fun back =>
      agrees plural singular back || precluded plural singular (known.and back.pattern) ||
        back.earlier.any (·.covers (known.and back.pattern))

section Three

variable {inner taken : List Char} {rules : List Rule}
  (first : plural.Takes word base old) (split : trunk text = base ++ plural.new)
  (second : singular.Takes text inner taken)

include first split

theorem inPlural_holds (holds : known.Holds word) : (plural.inPlural known).Holds text where
  ends := by
    have ends := holds.ends
    rw [first.split] at ends
    rw [split, inPlural, first.old.length_eq]
    exact ends.parts.1.append (fits_exact.mpr rfl)
  whole := by
    intro whole
    have long := holds.whole whole
    have ends := holds.ends.length_le
    rw [first.split, List.length_append, ← first.old.length_eq] at long ends
    rw [split, inPlural, List.length_append, List.length_append, List.length_take, exact,
      List.length_map]
    omega

include second

theorem asked_holds : (asked plural singular).Holds word where
  ends := by
    have ends := second.holds.ends
    rw [split] at ends
    rw [first.split]
    exact ends.parts.1.append first.old
  whole := by
    intro whole
    have long := second.holds.whole whole
    have ends := second.holds.ends.length_le
    rw [split, List.length_append] at long ends
    rw [first.split, asked, List.length_append, List.length_append, List.length_take,
      first.old.length_eq]
    omega

theorem not_precluded (holds : known.Holds word) : precluded plural singular known = false := by
  rw [precluded, first.not_covered holds,
    second.not_covered (inPlural_holds first split holds)]
  rfl

theorem same_of_agrees {outer rest : List Char} (third : back.Takes word outer rest)
    (agree : agrees plural singular back = true) : inner ++ singular.new = outer ++ back.new := by
  simp only [agrees, Bool.and_eq_true, decide_eq_true_eq, beq_iff_eq] at agree
  obtain ⟨⟨longer, dropped⟩, same⟩ := agree
  rw [first.old.length_eq, third.old.length_eq] at longer dropped
  rw [second.old.length_eq] at dropped same
  -- both outcomes keep the same part of the base
  have outerSplit := first.split.symm.trans third.split
  have innerSplit := split.symm.trans second.split
  have outerSize := congrArg List.length outerSplit
  have innerSize := congrArg List.length innerSplit
  simp only [List.length_append] at outerSize innerSize
  have outerKept : outer = base.take (base.length - (rest.length - old.length)) := by
    have front := congrArg (List.take outer.length) outerSplit
    rw [List.take_left, List.take_append_of_le_length (by omega)] at front
    exact front.symm.trans (List.take_eq_take_iff.mpr (by omega))
  have innerKept : inner = base.take (base.length - (taken.length - plural.new.length)) ++
      plural.new.take (plural.new.length - taken.length) := by
    have front := congrArg (List.take inner.length) innerSplit
    rw [List.take_left, List.take_append] at front
    rw [← front]
    refine congrArg₂ (· ++ ·) (List.take_eq_take_iff.mpr ?_) (List.take_eq_take_iff.mpr ?_)
    · omega
    · omega
  rw [innerKept, outerKept, dropped, List.append_assoc, same]

theorem same_of_composes {outer rest : List Char} (third : back.Takes word outer rest)
    (composed : composes rules plural singular = true)
    (listed : back ∈ openTurns (plural.pattern.and (asked plural singular)) []
      (rules ++ [adding ""])) :
    inner ++ singular.new = outer ++ back.new := by
  have holds := first.holds.and (asked_holds first split second)
  have both := holds.and third.holds
  rw [composes, not_precluded first split second holds, Bool.false_or, List.all_eq_true] at composed
  have agree := composed back listed
  rw [not_precluded first split second both, third.not_covered both, Bool.or_false,
    Bool.or_false] at agree
  exact same_of_agrees first split second third agree

end Three

end Turn

/-! ## The end of a plural -/

def pluralTurns : List Turn := openTurns .nothing [] (pluralRules ++ [adding "s"])

theorem closed_pluralRules :
    (∀ rule ∈ pluralRules ++ returnRules, rule.atEnd = true ∧ ∀ stem ∈ rule.stems,
      ∀ ending ∈ rule.endings, isClosed (stem ++ ending) = true) ∧
    ∀ turn ∈ pluralTurns, isClosed turn.result.form = true := by
  decide +kernel

/-- No plural rule puts the end of `oxen` behind its start, but where the plural ends in it. -/
theorem crossing_pluralTurns : ∀ turn ∈ pluralTurns, ∀ count < 5, 0 < count →
    turn.stem.length + count ≤ 4 →
      (count ≤ turn.ending.length →
        meets (turn.stem ++ turn.ending.take count) (form "oxen") = false) ∧
      (count < turn.new.length →
        meets (turn.stem ++ (exact turn.new).take count) (form "oxen") = false) := by
  decide +kernel

theorem composes_returnRules :
    (pluralTurns.all fun plural =>
      (openTurns plural.result [] (singularRules ++ [adding ""])).all fun singular =>
        Turn.composes (returnRules ++ singularRules) plural singular) = true := by
  decide +kernel

theorem standAtEnd_pluralRules (word : List Char) : StandAtEnd pluralRules word := by
  intro rule listed
  obtain ⟨atEnd, closed⟩ := closed_pluralRules.1 rule (List.mem_append_left _ listed)
  exact ⟨closed, fun _ _ _ _ _ _ stands => stands.atEnd atEnd⟩

theorem standAtEnd_returnRules (noOxen : ¬ Fits (form "oxen") (word.take 4)) :
    StandAtEnd (returnRules ++ singularRules) word := by
  intro rule listed
  rcases List.mem_append.mp listed with back | singular
  · obtain ⟨atEnd, closed⟩ := closed_pluralRules.1 rule (List.mem_append_right _ back)
    exact ⟨closed, fun _ _ _ _ _ _ stands => stands.atEnd atEnd⟩
  · refine ⟨(order_singularRules.2.2 rule singular).2.2, fun _ _ _ _ _ _ stands => ?_⟩
    exact stands.atEnd (atEnd_of_not_oxen singular stands noOxen)

/-- What stands across the end of a part that is too short for `oxen`. -/
theorem meets_of_crossing {stem added : Form} {new rest : List Char}
    (oxen : Fits (form "oxen") ((base ++ (new ++ rest)).take 4)) (ends : EndsIn stem base)
    (fits : Fits added new) (short : base.length < 4) (long : 4 ≤ base.length + new.length) :
    meets (stem ++ added.take (4 - base.length)) (form "oxen") = true := by
  rw [List.take_append, List.take_of_length_le short.le,
    List.take_append_of_le_length (by omega)] at oxen
  exact (ends.append (List.forall₂_take _ fits)).meets (.of_fits oxen)

section Plural

variable (listed : plural ∈ pluralTurns) (takes : plural.Takes word base old)

include takes

theorem take_four_of_long (long : 4 ≤ base.length) (rest : List Char) :
    (base ++ rest).take 4 = word.take 4 := by
  rw [← trunk_append_lineEnd word, takes.split, List.append_assoc,
    List.take_append_of_le_length long, List.take_append_of_le_length long]

include listed

theorem trunk_plural {ending : List Char} (ends : isWordEnd ending = true) :
    trunk (base ++ (plural.new ++ ending)) = base ++ plural.new := by
  obtain ⟨front, kept, rfl, stem⟩ := takes.stem
  have fits : Fits plural.result.form (kept ++ plural.new) :=
    List.rel_append stem (fits_exact.mpr rfl)
  have joined : trunk (front ++ (kept ++ plural.new ++ ending)) = front ++ (kept ++ plural.new) :=
    trunk_append (closed_pluralRules.2 plural listed) fits ends
  simpa only [List.append_assoc] using joined

/-- Where `oxen` stands at the start of a plural, but not of its word, the plural is no longer. -/
theorem isWordEnd_drop_four (noOxen : ¬ Fits (form "oxen") (word.take 4))
    (oxen : Fits (form "oxen") ((base ++ (plural.new ++ lineEnd word)).take 4)) :
    isWordEnd ((base ++ (plural.new ++ lineEnd word)).drop 4) = true := by
  have short : base.length < 4 := by
    by_contra long
    rw [take_four_of_long takes (by omega)] at oxen
    exact noOxen oxen
  have stemShort := takes.stem.length_le
  have inside : base.length + plural.new.length ≤ 4 := by
    by_contra crossing
    have crossed := (crossing_pluralTurns plural listed (4 - base.length) (by omega) (by omega)
      (by omega)).2 (by omega)
    rw [meets_of_crossing oxen takes.stem (fits_exact.mpr rfl) short (by omega)] at crossed
    cases crossed
  rw [List.drop_append, List.drop_append, List.drop_of_length_le (by omega : base.length ≤ 4),
    List.drop_of_length_le (by omega : plural.new.length ≤ 4 - base.length)]
  rcases isWordEnd_iff.mp (isWordEnd_lineEnd word) with none_left | single
  · rw [none_left, List.drop_nil]
    rfl
  · rw [single]
    cases 4 - base.length - plural.new.length with
    | zero => rfl
    | succ count => simp [isWordEnd]

theorem standAtEnd_singularRules (noOxen : ¬ Fits (form "oxen") (word.take 4)) :
    StandAtEnd singularRules (base ++ (plural.new ++ lineEnd word)) := by
  intro rule among
  obtain ⟨-, anywhere, closed⟩ := order_singularRules.2.2 rule among
  refine ⟨closed, fun stem ending front kept old tail stands => ?_⟩
  cases atEnd : rule.atEnd with
  | true => exact stands.atEnd atEnd
  | false =>
      obtain ⟨-, start, stems, endings⟩ := anywhere atEnd
      have shape := stands.listed
      rw [stems, endings, List.mem_singleton, List.mem_singleton] at shape
      have fits : Fits (form "oxen") (kept ++ old) := by
        have both := List.rel_append stands.kept stands.old
        rwa [shape.1, shape.2] at both
      have four : (kept ++ old).length = 4 := fits.length_eq.symm
      have split := stands.split.trans (show _ = kept ++ old ++ tail by
        rw [stands.atStart start, List.nil_append, List.append_assoc])
      have ends := isWordEnd_drop_four listed takes noOxen
      rw [split, List.take_left' four, List.drop_left' four] at ends
      exact ends fits

end Plural

/-! ## Singulars of plurals -/

def pluralChars (word : List Char) : List Char :=
  (pluralRules.findSome? (·.inflect? word)).getD (addS word)

def singularChars (word : List Char) : List Char :=
  (singularRules.findSome? (·.inflect? word)).getD word

/-- What comes back from the plural of a word by rule. -/
def returned (word : List Char) : List Char :=
  ((returnRules ++ singularRules).findSome? (·.inflect? word)).getD word

/-- Whether the plural is made at the end of a word, and not both in front of a line end and
behind it. -/
def hasPlainPlural (word : List Char) : Bool :=
  word.getLast? != some '\n' || pluralRules.any fun rule => (rule.inflect? word).isSome

theorem exists_plural_turn (plain : hasPlainPlural word = true) :
    ∃ plural ∈ pluralTurns, ∃ base old, plural.Takes word base old ∧
      pluralChars word = base ++ (plural.new ++ lineEnd word) := by
  obtain ⟨plural, listed, base, old, takes, read⟩ :=
    exists_turn (standAtEnd_pluralRules word) (Known.holds_nothing word) "s"
  refine ⟨plural, listed, base, old, takes, ?_⟩
  rw [← read, pluralChars]
  cases found : pluralRules.findSome? (·.inflect? word) with
  | some result => rfl
  | none =>
      have none_applies : (pluralRules.any fun rule => (rule.inflect? word).isSome) = false := by
        rw [List.any_eq_false]
        intro rule among
        simp [List.findSome?_eq_none_iff.mp found rule among]
      rw [hasPlainPlural, none_applies, Bool.or_false, bne_iff_ne] at plain
      rw [Option.getD_none, Option.getD_none, addS, if_neg (by simpa using plain),
        lineEnd_eq_nil plain, trunk, if_neg plain]
      rfl

/-- The singular of a plural is found from the word, by the rules for what comes back. -/
theorem singularChars_pluralChars (noOxen : ¬ Fits (form "oxen") (word.take 4))
    (plain : hasPlainPlural word = true) : singularChars (pluralChars word) = returned word := by
  obtain ⟨plural, listed, base, old, takes, shape⟩ := exists_plural_turn plain
  have ends := isWordEnd_lineEnd word
  have split : trunk (pluralChars word) = base ++ plural.new := by
    rw [shape, trunk_plural listed takes ends]
  have rest : lineEnd (pluralChars word) = lineEnd word := by
    rw [lineEnd, split, shape, ← List.append_assoc, List.drop_left]
  have pluralStands := standAtEnd_singularRules listed takes noOxen
  rw [← shape] at pluralStands
  obtain ⟨singular, among, inner, taken, second, made⟩ :=
    exists_turn pluralStands (takes.holds_result split) ""
  have composed := List.all_eq_true.mp (List.all_eq_true.mp composes_returnRules plural listed)
    singular among
  have known := takes.holds.and (Turn.asked_holds takes split second)
  obtain ⟨back, open_turn, outer, kept, third, same⟩ :=
    exists_turn (standAtEnd_returnRules noOxen) known ""
  have agree := Turn.same_of_composes takes split second third composed open_turn
  have nothing_added (text : List Char) : trunk text ++ ("".toList ++ lineEnd text) = text :=
    trunk_append_lineEnd text
  rw [nothing_added] at made same
  rw [singularChars, made, returned, same, rest, ← List.append_assoc, agree, List.append_assoc]

end ApiReview.WordEnding
