import ApiReview.Proofs.Word.Plurals

/-! Which rule of an ordered list has its turn on a word. A rule has no turn where an earlier
one applies. So of a word whose end is known, the rules that may have their turn are those
whose patterns meet this end, down to the first rule that applies to all such words. -/

set_option autoImplicit false

namespace ApiReview.WordEnding

open ApiReview.Text

variable {first second : Form} {rule : Rule} {rules : List Rule}
  {text taken more word base old : List Char}

/-! ## Ends of texts -/

/-- Whether the last characters of a text pass a form. -/
def EndsIn (pattern : Form) (text : List Char) : Prop :=
  ∃ front taken, text = front ++ taken ∧ Fits pattern taken

namespace EndsIn

theorem nil (text : List Char) : EndsIn [] text := ⟨text, [], by simp, .nil⟩

theorem of_fits (fits : Fits first text) : EndsIn first text := ⟨[], text, rfl, fits⟩

theorem append (ends : EndsIn first text) (fits : Fits second more) :
    EndsIn (first ++ second) (text ++ more) := by
  obtain ⟨front, taken, rfl, own⟩ := ends
  exact ⟨front, taken ++ more, List.append_assoc .., List.rel_append own fits⟩

theorem exact_iff {ending : List Char} : EndsIn (exact ending) text ↔ ending <:+ text := by
  constructor
  · rintro ⟨front, taken, rfl, fits⟩
    exact ⟨front, by rw [fits_exact.mp fits]⟩
  · rintro ⟨front, rfl⟩
    exact ⟨front, ending, rfl, fits_exact.mpr rfl⟩

theorem length_le (ends : EndsIn first text) : first.length ≤ text.length := by
  obtain ⟨front, taken, rfl, fits⟩ := ends
  rw [fits.length_eq, List.length_append]
  omega

/-- What an end of a joined text asks of its parts. -/
theorem parts (ends : EndsIn first (text ++ more)) :
    EndsIn (first.take (first.length - more.length)) text ∧
      Fits (first.drop (first.length - more.length))
        (more.drop (more.length - first.length)) := by
  obtain ⟨front, taken, split, fits⟩ := ends
  have size := fits.length_eq
  rcases List.append_eq_append_iff.mp split with ⟨before, rfl, rfl⟩ | ⟨inside, rfl, rfl⟩
  · -- all of it stands in the second part
    have none_left : first.length - (before ++ taken).length = 0 := by
      rw [List.length_append]
      omega
    have skipped : (before ++ taken).length - first.length = before.length := by
      rw [List.length_append]
      omega
    rw [none_left, skipped, List.take_zero, List.drop_zero, List.drop_left]
    exact ⟨.nil _, fits⟩
  · rw [List.length_append] at size
    have left : first.length - more.length = inside.length := by omega
    have none_skipped : more.length - first.length = 0 := by omega
    have front_fits := List.forall₂_take inside.length fits
    have back_fits := List.forall₂_drop inside.length fits
    rw [List.take_left] at front_fits
    rw [List.drop_left] at back_fits
    rw [left, none_skipped, List.drop_zero]
    exact ⟨⟨front, inside, rfl, front_fits⟩, back_fits⟩

theorem meets (ends : EndsIn first text) (also : EndsIn second text) :
    WordEnding.meets first second = true := by
  obtain ⟨front, taken, rfl, fits⟩ := ends
  obtain ⟨before, other, same, alsoFits⟩ := also
  exact meets_of_ends fits alsoFits same

theorem within (ends : EndsIn first text) (within : endsWithin first second = true) :
    EndsIn second text := by
  obtain ⟨front, taken, rfl, fits⟩ := ends
  obtain ⟨before, inside, rfl, also⟩ := fits_of_endsWithin fits within
  exact ⟨front ++ before, inside, (List.append_assoc ..).symm, also⟩

end EndsIn

/-! ## Merged forms -/

/-- What is known of a character that passes two tests, but for letters that both exclude. -/
def CharTest.both : CharTest → CharTest → CharTest
  | .noneOf _, .letter c => .letter c
  | .noneOf _, .exactly c => .exactly c
  | .letter _, .exactly c => .exactly c
  | test, _ => test

theorem CharTest.both_accepts {test other : CharTest} {c : Char} (accepted : test.accepts c = true)
    (also : other.accepts c = true) : (test.both other).accepts c = true := by
  cases test <;> cases other <;> assumption

def mergeFronts : Form → Form → Form
  | [], other => other
  | test :: tests, [] => test :: tests
  | test :: tests, other :: others => test.both other :: mergeFronts tests others

/-- Two forms of the end of a text as one. -/
def merge (first second : Form) : Form := (mergeFronts first.reverse second.reverse).reverse

theorem length_mergeFronts (first second : Form) :
    (mergeFronts first second).length = max first.length second.length := by
  induction first generalizing second with
  | nil => simp [mergeFronts]
  | cons test tests ih =>
      cases second with
      | nil => simp [mergeFronts]
      | cons other others => simp [mergeFronts, ih]

theorem length_merge (first second : Form) :
    (merge first second).length = max first.length second.length := by
  simp [merge, length_mergeFronts]

theorem mergeFronts_fits {left right other : List Char} (fits : Fits first left)
    (also : Fits second right) (same : left ++ more = right ++ other) :
    ∃ taken behind, left ++ more = taken ++ behind ∧ Fits (mergeFronts first second) taken := by
  induction fits generalizing second right with
  | nil => exact ⟨right, other, same, also⟩
  | @cons test c tests left accepted rest ih =>
      cases also with
      | nil => exact ⟨c :: left, more, rfl, .cons accepted rest⟩
      | cons alsoAccepted alsoRest =>
          obtain ⟨rfl, further⟩ := List.cons.inj same
          obtain ⟨taken, behind, split, merged⟩ := ih alsoRest further
          refine ⟨c :: taken, behind, congrArg (c :: ·) split, .cons ?_ merged⟩
          exact CharTest.both_accepts accepted alsoAccepted

theorem EndsIn.merge (ends : EndsIn first text) (also : EndsIn second text) :
    EndsIn (merge first second) text := by
  obtain ⟨front, taken, rfl, fits⟩ := ends
  obtain ⟨before, other, same, alsoFits⟩ := also
  have reversed := congrArg List.reverse same
  rw [List.reverse_append, List.reverse_append] at reversed
  obtain ⟨inside, behind, split, merged⟩ :=
    mergeFronts_fits (List.rel_reverse fits) (List.rel_reverse alsoFits) reversed
  refine ⟨behind.reverse, inside.reverse, ?_, List.rel_reverse merged⟩
  rw [← List.reverse_append, ← split, List.reverse_append, List.reverse_reverse, List.reverse_reverse]

/-! ## What is known of a word -/

/-- The line end behind a word, if there is one. -/
def lineEnd (word : List Char) : List Char := word.drop (trunk word).length

theorem trunk_append_lineEnd (word : List Char) : trunk word ++ lineEnd word = word := by
  obtain ⟨tail, split, -⟩ := exists_trunk word
  exact List.prefix_iff_eq_append.mp ⟨tail, split.symm⟩

theorem isWordEnd_lineEnd (word : List Char) : isWordEnd (lineEnd word) = true := by
  obtain ⟨tail, split, ends⟩ := exists_trunk word
  have same := (trunk_append_lineEnd word).trans split
  rwa [List.append_cancel_left same]

theorem lineEnd_eq_nil (last : word.getLast? ≠ some '\n') : lineEnd word = [] := by
  rw [lineEnd, trunk, if_neg last, List.drop_length]

/-- What is known of the end of a word, in front of a line end, or of the whole word. -/
structure Known where
  form : Form
  isWhole : Bool

namespace Known

variable {known other : Known}

structure Holds (known : Known) (word : List Char) : Prop where
  ends : EndsIn known.form (trunk word)
  whole : known.isWhole = true → (trunk word).length ≤ known.form.length

def nothing : Known := ⟨[], false⟩

theorem holds_nothing (word : List Char) : nothing.Holds word := ⟨.nil _, nofun⟩

def meets (known other : Known) : Bool :=
  WordEnding.meets known.form other.form &&
    (!known.isWhole || decide (other.form.length ≤ known.form.length)) &&
    (!other.isWhole || decide (known.form.length ≤ other.form.length))

theorem Holds.meets (holds : known.Holds word) (also : other.Holds word) :
    known.meets other = true := by
  have long := holds.ends.length_le
  have alsoLong := also.ends.length_le
  rw [Known.meets, holds.ends.meets also.ends, Bool.true_and, Bool.and_eq_true]
  constructor
  · cases whole : known.isWhole with
    | false => rfl
    | true => simpa using alsoLong.trans (holds.whole whole)
  · cases whole : other.isWhole with
    | false => rfl
    | true => simpa using long.trans (also.whole whole)

def and (known other : Known) : Known :=
  ⟨merge known.form other.form, known.isWhole || other.isWhole⟩

theorem Holds.and (holds : known.Holds word) (also : other.Holds word) :
    (known.and other).Holds word where
  ends := holds.ends.merge also.ends
  whole := by
    intro whole
    rw [Known.and, length_merge]
    rcases Bool.or_eq_true_iff.mp whole with own | own
    · exact (holds.whole own).trans (le_max_left ..)
    · exact (also.whole own).trans (le_max_right ..)

end Known

/-- Whether a rule applies to every word of which something is known. -/
def Rule.covers (rule : Rule) (known : Known) : Bool :=
  rule.stems.any fun stem => rule.endings.any fun ending =>
    endsWithin known.form (stem ++ ending) &&
      (!rule.atStart || (known.isWhole && (stem ++ ending).length == known.form.length))

theorem Rule.isSome_of_covers {known : Known} (covered : rule.covers known = true)
    (holds : known.Holds word) : (rule.inflect? word).isSome := by
  simp only [Rule.covers, List.any_eq_true, Bool.and_eq_true, Bool.or_eq_true,
    Bool.not_eq_true', beq_iff_eq] at covered
  obtain ⟨stem, stemListed, ending, endingListed, inside, placed⟩ := covered
  obtain ⟨front, taken, split, fits⟩ := holds.ends.within inside
  obtain ⟨kept, old, rfl, stemFits, endingFits⟩ := Fits.append_iff.mp fits
  have stands : rule.Stands stem ending word front kept old (lineEnd word) := by
    refine ⟨?_, ⟨stemListed, endingListed⟩, stemFits, endingFits, fun start => ?_,
      fun _ => isWordEnd_lineEnd word⟩
    · have joined := trunk_append_lineEnd word
      rw [split] at joined
      exact joined.symm.trans (by simp only [List.append_assoc])
    · rcases placed with anywhere | ⟨all, size⟩
      · rw [start] at anywhere
        cases anywhere
      · have long := holds.whole all
        rw [split, ← size, List.length_append, fits.length_eq] at long
        exact List.eq_nil_of_length_eq_zero (by omega)
  exact Rule.inflect?_isSome stands

/-! ## Turns -/

/-- One pattern of a rule, and the rules that are tried before. -/
structure Turn where
  earlier : List Rule
  rule : Rule
  stem : Form
  ending : Form

namespace Turn

variable {turn : Turn}

def pattern (turn : Turn) : Known := ⟨turn.stem ++ turn.ending, turn.rule.atStart⟩

/-- What the rule puts in the place of the ending. -/
def new (turn : Turn) : List Char := turn.rule.replacement.toList

/-- What the rule makes of its pattern. -/
def result (turn : Turn) : Known := ⟨turn.stem ++ exact turn.new, turn.rule.atStart⟩

/-- A turn on a word: the ending stands behind a part that ends in the stem, and no earlier rule
applies. -/
structure Takes (turn : Turn) (word base old : List Char) : Prop where
  split : trunk word = base ++ old
  stem : EndsIn turn.stem base
  old : Fits turn.ending old
  whole : turn.rule.atStart = true → base.length = turn.stem.length
  earlier : ∀ rule ∈ turn.earlier, rule.inflect? word = none

theorem Takes.holds (takes : turn.Takes word base old) : turn.pattern.Holds word where
  ends := takes.split ▸ takes.stem.append takes.old
  whole := by
    intro whole
    rw [takes.split, pattern, List.length_append, List.length_append, takes.whole whole,
      takes.old.length_eq]

theorem Takes.holds_result (takes : turn.Takes word base old)
    (split : trunk text = base ++ turn.new) : turn.result.Holds text where
  ends := split ▸ takes.stem.append (fits_exact.mpr rfl)
  whole := by
    intro whole
    rw [split, result, List.length_append, List.length_append, takes.whole whole, exact,
      List.length_map]

theorem Takes.not_covered {known : Known} (takes : turn.Takes word base old)
    (holds : known.Holds word) : turn.earlier.any (·.covers known) = false := by
  rw [List.any_eq_false]
  intro rule before covered
  have applied := Rule.isSome_of_covers covered holds
  rw [takes.earlier rule before] at applied
  cases applied

end Turn

/-- The turns that rules may have on a word of which something is known. -/
def openTurns (known : Known) (earlier : List Rule) : List Rule → List Turn
  | [] => []
  | rule :: later =>
      let met := (rule.stems.flatMap fun stem => rule.endings.map fun ending =>
        (⟨earlier, rule, stem, ending⟩ : Turn)).filter fun turn => known.meets turn.pattern
      met ++ if !met.isEmpty && rule.covers known then []
        else openTurns known (rule :: earlier) later

theorem mem_openTurns {known : Known} {earlier before later : List Rule} {stem ending : Form}
    (stemListed : stem ∈ rule.stems) (endingListed : ending ∈ rule.endings)
    (met : known.meets ⟨stem ++ ending, rule.atStart⟩ = true)
    (uncovered : ∀ other ∈ before, other.covers known = false) :
    ⟨before.reverse ++ earlier, rule, stem, ending⟩ ∈
      openTurns known earlier (before ++ rule :: later) := by
  induction before generalizing earlier with
  | nil =>
      rw [List.nil_append, openTurns]
      refine List.mem_append_left _ (List.mem_filter.mpr ⟨?_, met⟩)
      exact List.mem_flatMap.mpr ⟨stem, stemListed, List.mem_map.mpr ⟨ending, endingListed, rfl⟩⟩
  | cons other before ih =>
      have open_later : Turn.mk (before.reverse ++ other :: earlier) rule stem ending ∈
          openTurns known (other :: earlier) (before ++ rule :: later) :=
        ih fun rule behind => uncovered rule (List.mem_cons_of_mem _ behind)
      rw [List.cons_append, openTurns, uncovered other List.mem_cons_self, Bool.and_false,
        if_neg Bool.false_ne_true, List.reverse_cons, List.append_assoc, List.singleton_append]
      exact List.mem_append_right _ open_later

/-- Whether each pattern of the rules that stands in a word stands at its end. -/
def StandAtEnd (rules : List Rule) (word : List Char) : Prop :=
  ∀ rule ∈ rules, (∀ stem ∈ rule.stems, ∀ ending ∈ rule.endings, isClosed (stem ++ ending) = true) ∧
    ∀ stem ending front kept old tail, rule.Stands stem ending word front kept old tail →
      isWordEnd tail = true

def adding (text : String) : Rule := ending [""] [""] text

/-- Some rule has its turn, at the latest the one that puts a text behind the word. -/
theorem exists_turn {known : Known} (atEnd : StandAtEnd rules word) (holds : known.Holds word)
    (added : String) :
    ∃ turn ∈ openTurns known [] (rules ++ [adding added]), ∃ base old, turn.Takes word base old ∧
      (rules.findSome? (·.inflect? word)).getD (trunk word ++ (added.toList ++ lineEnd word)) =
        base ++ (turn.new ++ lineEnd word) := by
  have uncovered (before : List Rule) (skipped : ∀ rule ∈ before, rule.inflect? word = none) :
      ∀ rule ∈ before, rule.covers known = false := by
    intro rule among
    rw [Bool.eq_false_iff]
    intro covered
    have applied := Rule.isSome_of_covers covered holds
    rw [skipped rule among] at applied
    cases applied
  cases found : rules.findSome? (·.inflect? word) with
  | none =>
      have skipped := List.findSome?_eq_none_iff.mp found
      have takes : (Turn.mk (rules.reverse ++ []) (adding added) [] []).Takes word (trunk word) [] := by
        refine ⟨(List.append_nil _).symm, .nil _, .nil, nofun, ?_⟩
        simpa using skipped
      exact ⟨_, mem_openTurns (.head _) (.head _) (holds.meets takes.holds) (uncovered _ skipped),
        _, _, takes, rfl⟩
  | some result =>
      obtain ⟨earlier, rule, later, rfl, read, skipped⟩ := List.findSome?_eq_some_iff.mp found
      obtain ⟨closed, atEnd⟩ := atEnd rule (by simp)
      obtain ⟨stem, ending, front, kept, old, tail, stands, rfl⟩ := Rule.inflect?_ok read
      have fits : Fits (stem ++ ending) (kept ++ old) := List.rel_append stands.kept stands.old
      have split : trunk word = front ++ (kept ++ old) := by
        rw [stands.split, ← List.append_assoc kept]
        exact trunk_append (closed stem stands.listed.1 ending stands.listed.2) fits
          (atEnd _ _ _ _ _ _ stands)
      have rest : tail = lineEnd word := by
        have same := (trunk_append_lineEnd word).trans stands.split
        rw [split] at same
        simpa using same.symm
      have takes : (Turn.mk (earlier.reverse ++ []) rule stem ending).Takes word (front ++ kept) old := by
        refine ⟨split.trans (List.append_assoc ..).symm, ⟨front, kept, rfl, stands.kept⟩, stands.old,
          fun start => ?_, by simpa using skipped⟩
        rw [stands.atStart start, List.nil_append, stands.kept.length_eq]
      refine ⟨_, ?_, _, _, takes, ?_⟩
      · rw [List.append_assoc, List.cons_append]
        exact mem_openTurns stands.listed.1 stands.listed.2 (holds.meets takes.holds)
          (uncovered _ skipped)
      · rw [Option.getD_some, rest, Turn.new, List.append_assoc]

end ApiReview.WordEnding
