import ApiReview.Proofs.Path.Casing

/-! Lower case that stays. No character in a lowered text is lowered any further, so
that lowering twice is lowering once. ASCII characters that are no letters come out of
a change of case only where they went in, and a text may be lowered in parts around
one of them that the rule for the final sigma does not look through. A capital that is
put at the start of a lowered text is lowered back where it was once in that place. -/

set_option autoImplicit false

namespace ApiReview.Text

variable {c d : Char} {before after front behind text : List Char} {code image : Nat}

/-! ## Spans that are apart -/

/-- What divides the distances of the code points in a span from each other. -/
def Span.stride (span : Span) : Nat := if span.first = span.last then 0 else span.step

/-- Whether spans share no code point: they do not overlap, or their steps never meet. -/
def Span.isApart (span other : Span) : Bool :=
  Nat.blt span.last other.first || Nat.blt other.last span.first ||
    ((span.first - other.first) + (other.first - span.first)) % Nat.gcd span.stride other.stride != 0

theorem Span.contains_iff {span : Span} : span.contains code = true ↔
    span.first ≤ code ∧ code ≤ span.last ∧ span.step ∣ code - span.first := by
  simp only [Span.contains, Bool.and_eq_true, decide_eq_true_eq, beq_iff_eq, Nat.dvd_iff_mod_eq_zero,
    and_assoc]

theorem Span.stride_dvd {span : Span} (held : span.contains code = true) :
    span.stride ∣ code - span.first := by
  obtain ⟨first, last, steps⟩ := Span.contains_iff.mp held
  rw [Span.stride]
  split
  · have nothing : code - span.first = 0 := by omega
    rw [nothing]
  · exact steps

theorem Span.not_contains_of_isApart {span other : Span} (apart : span.isApart other = true)
    (held : span.contains code = true) : other.contains code = false := by
  rw [Bool.eq_false_iff]
  intro also
  have steps := (Nat.gcd_dvd_left span.stride other.stride).trans (Span.stride_dvd held)
  have others := (Nat.gcd_dvd_right span.stride other.stride).trans (Span.stride_dvd also)
  obtain ⟨first, last, -⟩ := Span.contains_iff.mp held
  obtain ⟨otherFirst, otherLast, -⟩ := Span.contains_iff.mp also
  simp only [Span.isApart, Bool.or_eq_true, Nat.blt_eq, bne_iff_ne] at apart
  rcases apart with (below | above) | odd
  · omega
  · omega
  · refine odd (Nat.mod_eq_zero_of_dvd ?_)
    -- the distance of the starts is that of the distances of the code point from them
    rcases Nat.le_total span.first other.first with before | behind
    · have distance : (span.first - other.first) + (other.first - span.first) =
          (code - span.first) - (code - other.first) := by omega
      exact distance ▸ Nat.dvd_sub steps others
    · have distance : (span.first - other.first) + (other.first - span.first) =
          (code - other.first) - (code - span.first) := by omega
      exact distance ▸ Nat.dvd_sub others steps

/-! ## Images of the case tables -/

def Shift.images (shift : Shift) : Span where
  first := (Int.ofNat shift.span.first + shift.distance).toNat
  last := (Int.ofNat shift.span.last + shift.distance).toNat
  step := shift.span.step

theorem Shift.contains_images {shift : Shift}
    (starts : 0 ≤ Int.ofNat shift.span.first + shift.distance)
    (held : shift.span.contains code = true) :
    shift.images.contains (Int.ofNat code + shift.distance).toNat = true := by
  obtain ⟨first, last, steps⟩ := Span.contains_iff.mp held
  simp only [Int.ofNat_eq_natCast] at starts
  rw [Span.contains_iff]
  simp only [Shift.images, Int.ofNat_eq_natCast]
  refine ⟨by omega, by omega, ?_⟩
  have same : ((code : Int) + shift.distance).toNat - ((shift.span.first : Int) + shift.distance).toNat =
      code - shift.span.first := by omega
  rwa [same]

/-- The spans of characters that have a lower case form other than themselves. -/
def loweredSpans : List Span := ⟨0x130, 0x130, 1⟩ :: CaseTable.toLower.map (·.span)

/-- The spans of characters that have an upper case form other than themselves. -/
def raisedSpans : List Span :=
  CaseTable.toUpperLong.map (fun (code, _) => ⟨code, code, 1⟩) ++ CaseTable.toUpper.map (·.span)

/-- The tables lead to no small letter that they move on, and know no capital that they move on. -/
theorem isApart_tables :
    (CaseTable.toLower.all fun shift => (0 ≤ Int.ofNat shift.span.first + shift.distance) &&
      loweredSpans.all shift.images.isApart) = true ∧
    (CaseTable.upperCase.all fun span => raisedSpans.all span.isApart) = true := by decide +kernel

/-- No image of the lower case table has an image itself. -/
theorem not_contains_image {span : Span}
    (shifted : Shift.image? CaseTable.toLower code = some image) (listed : span ∈ loweredSpans) :
    span.contains image = false := by
  obtain ⟨shift, found, rfl⟩ := Option.map_eq_some_iff.mp shifted
  have final := List.all_eq_true.mp isApart_tables.1 shift (List.mem_of_find?_eq_some found)
  have held := List.find?_some found
  rw [Bool.and_eq_true, decide_eq_true_eq] at final
  exact Span.not_contains_of_isApart (List.all_eq_true.mp final.2 span listed)
    (Shift.contains_images final.1 held)

/-! ## Letters of ASCII -/

namespace Letter

def isPair (capital small : Char) : Bool :=
  isAsciiUpper capital && isAsciiLower small &&
    (lower capital == [small] && upper small == [capital])

/-- Letters of ASCII come in pairs. -/
theorem isPair_ascii (ascii : c.toNat < 128) :
    (isAsciiUpper c = true → isPair c (Char.ofNat (c.toNat + 32)) = true) ∧
      (isAsciiLower c = true → isPair (Char.ofNat (c.toNat - 32)) c = true) := by
  have tested := of_ascii (fun c => (!isAsciiUpper c || isPair c (Char.ofNat (c.toNat + 32))) &&
    (!isAsciiLower c || isPair (Char.ofNat (c.toNat - 32)) c)) (by decide +kernel) ascii
  simpa [← Bool.not_eq_true, imp_iff_not_or] using tested

theorem isAsciiUpper_of_isAsciiLower (small : isAsciiLower c = true) : isAsciiUpper c = false := by
  rw [Bool.eq_false_iff]
  intro capital
  have bounds := toNat_bounds_of_isAsciiLower small
  have others := toNat_bounds_of_isAsciiUpper capital
  omega

theorem lower_ascii (ascii : c.toNat < 128) :
    lower c = [c] ∨ ∃ small, isPair c small = true ∧ lower c = [small] := by
  by_cases capital : isAsciiUpper c = true
  · have pair := (isPair_ascii ascii).1 capital
    refine .inr ⟨_, pair, ?_⟩
    simp only [isPair, Bool.and_eq_true, beq_iff_eq] at pair
    exact pair.2.1
  · exact .inl (by rw [lower, if_pos ascii, if_neg capital])

theorem upper_ascii (ascii : c.toNat < 128) :
    upper c = [c] ∨ ∃ capital, isPair capital c = true ∧ upper c = [capital] := by
  by_cases small : isAsciiLower c = true
  · have pair := (isPair_ascii ascii).2 small
    refine .inr ⟨_, pair, ?_⟩
    simp only [isPair, Bool.and_eq_true, beq_iff_eq] at pair
    exact pair.2.2
  · exact .inl (by rw [upper, if_pos ascii, if_neg small])

theorem lower_of_isAsciiLower (small : isAsciiLower c = true) : lower c = [c] := by
  have bounds := toNat_bounds_of_isAsciiLower small
  rw [lower, if_pos (by omega), isAsciiUpper_of_isAsciiLower small]
  rfl

/-! ## Characters in lower case -/

theorem lower_ofNat_image (shifted : Shift.image? CaseTable.toLower code = some image) :
    lower (Char.ofNat image) = [Char.ofNat image] := by
  have outside {span : Span} (listed : span ∈ loweredSpans) := not_contains_image shifted listed
  rcases toNat_ofNat_eq_or image with same | zero
  · have long : CaseTable.toLowerLong.lookup image = none := by
      have other := outside (List.mem_cons_self)
      rw [List.lookup_eq_none_iff]
      intro entry listed
      cases List.mem_singleton.mp listed
      rw [bne_iff_ne]
      rintro rfl
      cases other
    have short : Shift.image? CaseTable.toLower image = none := by
      rw [Shift.image?, Option.map_eq_none_iff, List.find?_eq_none]
      intro shift listed
      rw [outside (List.mem_cons_of_mem _ (List.mem_map_of_mem listed))]
      exact Bool.false_ne_true
    have capital : isAsciiUpper (Char.ofNat image) = false := by
      rw [Bool.eq_false_iff]
      intro claimed
      obtain ⟨first, last⟩ := toNat_bounds_of_isAsciiUpper claimed
      have latin : (⟨65, 90, 1⟩ : Span) ∈ loweredSpans :=
        List.mem_cons_of_mem _ (List.mem_map_of_mem (f := Shift.span) List.mem_cons_self)
      have held := outside latin
      simp only [Span.contains, Nat.mod_one, beq_self_eq_true, Bool.and_true] at held
      simp only [Bool.and_eq_false_iff, decide_eq_false_iff_not] at held
      omega
    rw [lower, capital, same, mapped?, long, short]
    split <;> rfl
  · have nothing : Char.ofNat image = Char.ofNat 0 := by
      rw [← Char.ofNat_toNat (Char.ofNat image), zero]
    rw [nothing]
    rfl

/-- The dot above, the small sigmas and the capital sigma. -/
theorem lower_specials : lower (Char.ofNat 0x307) = [Char.ofNat 0x307] ∧
    lower (Char.ofNat 0x3C2) = [Char.ofNat 0x3C2] ∧ lower (Char.ofNat 0x3C3) = [Char.ofNat 0x3C3] ∧
      lower (Char.ofNat 0x3A3) = [Char.ofNat 0x3C3] := by decide +kernel

theorem codes_of_long {codes : List Nat} (long : CaseTable.toLowerLong.lookup code = some codes) :
    codes = [0x69, 0x307] := by
  obtain ⟨front, back, table, -⟩ := List.lookup_eq_some_iff.mp long
  have listed : (code, codes) ∈ CaseTable.toLowerLong := table ▸ by simp
  exact (Prod.mk.inj (List.mem_singleton.mp listed)).2

/-- The lower case form of a character is lower case. -/
theorem lower_of_mem_lower (among : d ∈ lower c) : lower d = [d] := by
  by_cases ascii : c.toNat < 128
  · rcases lower_ascii ascii with own | ⟨small, pair, shape⟩
    · rw [own] at among
      cases List.mem_singleton.mp among
      exact own
    · rw [shape] at among
      cases List.mem_singleton.mp among
      simp only [isPair, Bool.and_eq_true] at pair
      exact lower_of_isAsciiLower pair.1.2
  · have shape : lower c = (mapped? CaseTable.toLowerLong CaseTable.toLower c.toNat).getD [c] := by
      rw [lower, if_neg ascii]
    rw [shape, mapped?] at among
    cases long : CaseTable.toLowerLong.lookup c.toNat with
    | some codes =>
        rw [long] at among
        obtain ⟨code, listed, rfl⟩ := List.mem_map.mp among
        rw [codes_of_long long] at listed
        rcases List.mem_pair.mp listed with rfl | rfl
        · exact lower_of_isAsciiLower (by decide)
        · exact lower_specials.1
    | none =>
        rw [long] at among
        cases short : Shift.image? CaseTable.toLower c.toNat with
        | some image =>
            rw [short] at among
            cases List.mem_singleton.mp among
            exact lower_ofNat_image short
        | none =>
            rw [short] at among
            cases List.mem_singleton.mp among
            rw [shape, mapped?, long, short]
            rfl

theorem isAsciiUpper_of_lowered (lowered : lower c = [c]) : isAsciiUpper c = false := by
  rw [Bool.eq_false_iff]
  intro capital
  obtain ⟨first, last⟩ := toNat_bounds_of_isAsciiUpper capital
  rw [lower, if_pos (by omega), if_pos capital] at lowered
  have same := congrArg Char.toNat (List.singleton_inj.mp lowered)
  rw [toNat_ofNat_of_lt (by omega)] at same
  omega

/-! ## Signs that have no case -/

/-- Whether a code point is that of a Latin letter or beyond ASCII. -/
def isLetterCode (code : Nat) : Bool :=
  decide (128 ≤ code) || (decide (65 ≤ code) && decide (code ≤ 90)) ||
    (decide (97 ≤ code) && decide (code ≤ 122))

/-- Whether a character is a printable ASCII character that is no letter. -/
def isMark (c : Char) : Bool := decide (0x20 < c.toNat) && !isLetterCode c.toNat

/-- Whether a shift leads from beyond ASCII to Latin letters or beyond ASCII. -/
def leadsToLetters (shift : Shift) : Bool :=
  decide (shift.span.last < 128) || decide (128 ≤ Int.ofNat shift.span.first + shift.distance) ||
    (shift.span.first == shift.span.last &&
      isLetterCode (Int.ofNat shift.span.first + shift.distance).toNat)

theorem isMark_ofNat (letter : isLetterCode code = true) : isMark (Char.ofNat code) = false := by
  rcases toNat_ofNat_eq_or code with same | zero
  · rw [isMark, same, letter, Bool.not_true, Bool.and_false]
  · rw [isMark, zero]
    rfl

/-- A sign among the images of a table of letters stands where there is no image. -/
theorem mem_of_isMark_mapped? {long : List (Nat × List Nat)} {short : List Shift}
    {other : List Char} (beyond : 128 ≤ code)
    (longs : long.all (fun entry => !entry.2.isEmpty && entry.2.all isLetterCode) = true)
    (shorts : short.all leadsToLetters = true) (mark : isMark d = true)
    (among : d ∈ (mapped? long short code).getD other) : d ∈ other := by
  cases mapped : mapped? long short code with
  | none =>
      rw [mapped] at among
      exact among
  | some images =>
      suffices letter : isMark d = false by
        rw [letter] at mark
        cases mark
      rw [mapped, Option.getD_some] at among
      rw [mapped?] at mapped
      split at mapped
      · rename_i codes found
        cases mapped
        obtain ⟨front, back, rfl, -⟩ := List.lookup_eq_some_iff.mp found
        obtain ⟨image, listed, rfl⟩ := List.mem_map.mp among
        have entry := List.all_eq_true.mp longs (code, codes) (by simp)
        rw [Bool.and_eq_true] at entry
        exact isMark_ofNat (List.all_eq_true.mp entry.2 image listed)
      · obtain ⟨image, shifted, rfl⟩ := Option.map_eq_some_iff.mp mapped
        cases List.mem_singleton.mp among
        obtain ⟨shift, found, rfl⟩ := Option.map_eq_some_iff.mp shifted
        have held := List.find?_some found
        have leads := List.all_eq_true.mp shorts shift (List.mem_of_find?_eq_some found)
        simp only [Span.contains, Bool.and_eq_true, decide_eq_true_eq] at held
        simp only [leadsToLetters, Bool.or_eq_true, Bool.and_eq_true, decide_eq_true_eq,
          beq_iff_eq] at leads
        rcases leads with (below | far) | ⟨single, letter⟩
        · omega
        · refine isMark_ofNat ?_
          simp only [isLetterCode, Bool.or_eq_true, decide_eq_true_eq]
          simp only [Int.ofNat_eq_natCast] at far ⊢
          omega
        · have same : code = shift.span.first := by omega
          exact isMark_ofNat (same ▸ letter)

theorem ascii_of_isMark (mark : isMark c = true) : c.toNat < 128 := by
  simp only [isMark, isLetterCode, Bool.and_eq_true, Bool.not_eq_true', Bool.or_eq_false_iff,
    decide_eq_false_iff_not] at mark
  omega

theorem not_isMark_of_isAsciiLower (small : isAsciiLower c = true) : isMark c = false := by
  have bounds := toNat_bounds_of_isAsciiLower small
  simp [isMark, isLetterCode, bounds]

theorem not_isMark_of_isPair {capital small : Char} (pair : isPair capital small = true) :
    isMark capital = false ∧ isMark small = false := by
  simp only [isPair, Bool.and_eq_true] at pair
  have bounds := toNat_bounds_of_isAsciiUpper pair.1.1
  exact ⟨by simp [isMark, isLetterCode, bounds], not_isMark_of_isAsciiLower pair.1.2⟩

theorem case_of_isMark (mark : isMark c = true) : lower c = [c] ∧ upper c = [c] ∧ title c = [c] := by
  have ascii := ascii_of_isMark mark
  have small : lower c = [c] := (lower_ascii ascii).resolve_right fun ⟨_, pair, _⟩ => by
    rw [(not_isMark_of_isPair pair).1] at mark
    cases mark
  have large : upper c = [c] := (upper_ascii ascii).resolve_right fun ⟨_, pair, _⟩ => by
    rw [(not_isMark_of_isPair pair).2] at mark
    cases mark
  refine ⟨small, large, ?_⟩
  rw [title, if_pos ascii, large]

/-- No long or short case mapping from beyond ASCII leads to nothing or to a sign, and a long one
starts with the capital of another character. -/
theorem letters_of_tables :
    ([CaseTable.toLowerLong, CaseTable.toUpperLong, CaseTable.toTitleLong].all fun long =>
      long.all fun (_, images) => !images.isEmpty && images.all isLetterCode) = true ∧
    ([CaseTable.toLower, CaseTable.toUpper, CaseTable.toTitle].all fun short =>
      short.all leadsToLetters) = true ∧
    (CaseTable.toUpperLong.all fun (code, images) => images.head?.any fun image =>
      (lower (Char.ofNat image)).head? != some (Char.ofNat code)) = true := by decide +kernel

section Marks

variable (mark : isMark d = true)

include mark

/-- A sign comes out of the lower case form of itself only, and likewise below. -/
theorem eq_of_isMark_lower (among : d ∈ lower c) : c = d := by
  by_cases ascii : c.toNat < 128
  · rcases lower_ascii ascii with own | ⟨small, pair, shape⟩
    · exact (List.mem_singleton.mp (own ▸ among)).symm
    · rw [shape, List.mem_singleton] at among
      rw [among, (not_isMark_of_isPair pair).2] at mark
      cases mark
  · rw [lower, if_neg ascii] at among
    exact (List.mem_singleton.mp (mem_of_isMark_mapped? (by omega) (List.all_eq_true.mp
      letters_of_tables.1 _ (by simp)) (List.all_eq_true.mp letters_of_tables.2.1 _ (by simp)) mark
      among)).symm

theorem eq_of_isMark_upper (among : d ∈ upper c) : c = d := by
  by_cases ascii : c.toNat < 128
  · rcases upper_ascii ascii with own | ⟨capital, pair, shape⟩
    · exact (List.mem_singleton.mp (own ▸ among)).symm
    · rw [shape, List.mem_singleton] at among
      rw [among, (not_isMark_of_isPair pair).1] at mark
      cases mark
  · rw [upper, if_neg ascii] at among
    exact (List.mem_singleton.mp (mem_of_isMark_mapped? (by omega) (List.all_eq_true.mp
      letters_of_tables.1 _ (by simp)) (List.all_eq_true.mp letters_of_tables.2.1 _ (by simp)) mark
      among)).symm

theorem eq_of_isMark_title (among : d ∈ title c) : c = d := by
  by_cases ascii : c.toNat < 128
  · rw [title, if_pos ascii] at among
    exact eq_of_isMark_upper mark among
  · rw [title, if_neg ascii] at among
    exact eq_of_isMark_upper mark (mem_of_isMark_mapped? (by omega) (List.all_eq_true.mp
      letters_of_tables.1 _ (by simp)) (List.all_eq_true.mp letters_of_tables.2.1 _ (by simp)) mark among)

end Marks

theorem mapped?_ne_nil {long : List (Nat × List Nat)} {short : List Shift} {other : List Char}
    (longs : long.all (fun entry => !entry.2.isEmpty && entry.2.all isLetterCode) = true)
    (filled : other ≠ []) : (mapped? long short code).getD other ≠ [] := by
  rw [mapped?]
  cases found : long.lookup code with
  | some codes =>
      obtain ⟨front, back, rfl, -⟩ := List.lookup_eq_some_iff.mp found
      have entry := List.all_eq_true.mp longs (code, codes) (by simp)
      simp only [Bool.and_eq_true, Bool.not_eq_true', List.isEmpty_eq_false_iff] at entry
      simpa using entry.1
  | none =>
      cases Shift.image? short code with
      | some image => exact List.cons_ne_nil _ _
      | none => exact filled

theorem title_ne_nil (c : Char) : title c ≠ [] := by
  have large : upper c ≠ [] := by
    rw [upper]
    split
    · split <;> exact List.cons_ne_nil _ _
    · exact mapped?_ne_nil (List.all_eq_true.mp letters_of_tables.1 _ (by simp))
        (List.cons_ne_nil _ _)
  rw [title]
  split
  · exact large
  · exact mapped?_ne_nil (List.all_eq_true.mp letters_of_tables.1 _ (by simp)) large

end Letter

/-! ## Lowered texts -/

theorem lowerAfter_cons (before : List Char) (c : Char) (rest : List Char) :
    ∃ small, lowerAfter before (c :: rest) = small ++ lowerAfter (c :: before) rest ∧
      (small = Letter.lower c ∨ (c.toNat = 0x3A3 ∧ ∀ d ∈ small, d = Char.ofNat 0x3C2 ∨
        d = Char.ofNat 0x3C3)) := by
  rw [lowerAfter]
  split
  · rename_i sigma
    refine ⟨_, rfl, .inr ⟨eq_of_beq sigma, fun d among => ?_⟩⟩
    rw [List.mem_singleton.mp among]
    split
    · exact .inl rfl
    · exact .inr rfl
  · exact ⟨_, rfl, .inl rfl⟩

theorem lower_of_mem_lowerAfter (among : d ∈ lowerAfter before text) : Letter.lower d = [d] := by
  induction text generalizing before with
  | nil => cases among
  | cons c rest ih =>
      obtain ⟨small, split, shape⟩ := lowerAfter_cons before c rest
      rw [split] at among
      rcases List.mem_append.mp among with here | behind
      · rcases shape with rfl | ⟨-, sigma⟩
        · exact Letter.lower_of_mem_lower here
        · rcases sigma d here with rfl | rfl
          · exact Letter.lower_specials.2.1
          · exact Letter.lower_specials.2.2.1
      · exact ih behind

/-- A sign in a lowered text was in the text. -/
theorem mem_of_mem_lowerAfter (mark : Letter.isMark d = true) (among : d ∈ lowerAfter before text) :
    d ∈ text := by
  induction text generalizing before with
  | nil => cases among
  | cons c rest ih =>
      obtain ⟨small, split, shape⟩ := lowerAfter_cons before c rest
      rw [split] at among
      rcases List.mem_append.mp among with here | behind
      · rcases shape with rfl | ⟨-, sigma⟩
        · exact Letter.eq_of_isMark_lower mark here ▸ List.mem_cons_self
        · rcases sigma d here with rfl | rfl <;> exact absurd mark (by decide)
      · exact List.mem_cons_of_mem _ (ih behind)

theorem lowerAfter_of_lowered (lowered : ∀ c ∈ text, Letter.lower c = [c]) :
    lowerAfter before text = text := by
  induction text generalizing before with
  | nil => rfl
  | cons c rest ih =>
      obtain ⟨small, split, shape⟩ := lowerAfter_cons before c rest
      have own := lowered c List.mem_cons_self
      rw [split, ih fun d among => lowered d (List.mem_cons_of_mem _ among)]
      rcases shape with rfl | ⟨sigma, -⟩
      · rw [own, List.singleton_append]
      · -- a capital sigma is not lowered yet
        have capital : c = Char.ofNat 0x3A3 := by rw [← sigma, Char.ofNat_toNat]
        rw [capital, Letter.lower_specials.2.2.2] at own
        cases own

theorem lower_lower (text : String) : lower (lower text) = lower text := by
  have stays : lowerChars (lower text).toList = (lower text).toList := by
    refine lowerAfter_of_lowered fun c among => ?_
    rw [lower, String.toList_ofList] at among
    exact lower_of_mem_lowerAfter among
  rw [lower, stays, String.ofList_toList]

/-! ## Lowering around a sign -/

/-- Whether a character is a sign that the rule for the final sigma does not look through. -/
def Letter.partsCase (c : Char) : Bool := isMark c && !isCaseIgnorable c && !isCased c

section Parted

variable {sign : Char} (parts : Letter.partsCase sign = true)

include parts

theorem nearestIsCased_append (front behind : List Char) :
    nearestIsCased (front ++ sign :: behind) = nearestIsCased front := by
  simp only [Letter.partsCase, Bool.and_eq_true, Bool.not_eq_true'] at parts
  induction front with
  | nil => simp [nearestIsCased, parts]
  | cons c rest ih => simp [nearestIsCased, ih]

/-- What stands in front of such a sign has no effect behind it. -/
theorem lowerAfter_parted (front before text : List Char) :
    lowerAfter (front ++ sign :: before) text = lowerAfter front text := by
  induction text generalizing front with
  | nil => rfl
  | cons c rest ih =>
      have further := ih (c :: front)
      rw [List.cons_append] at further
      rw [lowerAfter, lowerAfter, endsWord, endsWord, nearestIsCased_append parts, further]

theorem lowerAfter_append (before text behind : List Char) :
    lowerAfter before (text ++ sign :: behind) =
      lowerAfter before text ++ sign :: lowerAfter [] behind := by
  induction text generalizing before with
  | nil =>
      have mark : Letter.isMark sign = true := by
        simp only [Letter.partsCase, Bool.and_eq_true] at parts
        exact parts.1.1
      have ascii := Letter.ascii_of_isMark mark
      have small : ¬ sign.toNat = 0x3A3 := by omega
      have behind_sign := lowerAfter_parted parts [] before behind
      rw [List.nil_append] at behind_sign
      simp [lowerAfter, small, (Letter.case_of_isMark mark).1, behind_sign]
  | cons c rest ih =>
      rw [List.cons_append, lowerAfter, lowerAfter, endsWord, endsWord, nearestIsCased_append parts,
        ih, List.append_assoc]

end Parted

/-! ## Capitals that are lowered back -/

namespace Letter

/-- The lower case form is one character, but for the dotted capital `i`. -/
theorem lower_shape (c : Char) : (∃ small, lower c = [small]) ∨ lower c = ['i', Char.ofNat 0x307] := by
  by_cases ascii : c.toNat < 128
  · left
    rw [lower, if_pos ascii]
    split <;> exact ⟨_, rfl⟩
  · rw [lower, if_neg ascii, mapped?]
    cases long : CaseTable.toLowerLong.lookup c.toNat with
    | some codes =>
        cases codes_of_long long
        exact .inr rfl
    | none =>
        left
        cases Shift.image? CaseTable.toLower c.toNat <;> exact ⟨_, rfl⟩

/-- The capital of a character is a single one that is lowered to the character again. -/
def Returns (c : Char) : Prop := ∃ capital, upper c = [capital] ∧ lower capital = [c]

theorem returns_of_isAsciiLower (small : isAsciiLower c = true) : Returns c := by
  have bounds := toNat_bounds_of_isAsciiLower small
  have pair := (isPair_ascii (by omega)).2 small
  simp only [isPair, Bool.and_eq_true, beq_iff_eq] at pair
  exact ⟨_, pair.2.2, pair.2.1⟩

end Letter

/-- A sigma at the start of a text is not at the end of a word. -/
theorem lowerAfter_start (c : Char) (text : List Char) :
    lowerAfter [] (c :: text) = Letter.lower c ++ lowerAfter [c] text := by
  rw [lowerAfter]
  split
  · rename_i sigma
    have capital : c = Char.ofNat 0x3A3 := by rw [← eq_of_beq sigma, Char.ofNat_toNat]
    have inside : endsWord [] text = false := rfl
    rw [inside, capital, Letter.lower_specials.2.2.2]
    rfl
  · rfl

theorem lowerAfter_filled (c : Char) (text : List Char) :
    (lowerAfter [] (c :: text)).head? = (Letter.lower c).head? ∧ lowerAfter [] (c :: text) ≠ [] := by
  have filled : Letter.lower c ≠ [] := by
    rcases Letter.lower_shape c with ⟨small, shape⟩ | shape <;> rw [shape] <;> simp
  rw [lowerAfter_start]
  exact ⟨List.head?_append_of_ne_nil _ filled, List.append_ne_nil_of_left_ne_nil filled _⟩

/-- A character that a text starts with when its capital is lowered in that place returns. -/
theorem Letter.returns_of_head? (starts : (lowerAfter [] (upper c ++ text)).head? = some c) :
    Returns c := by
  have single {capital : Char} (raised : upper c = [capital]) (beyond : c ≠ 'i') : Returns c := by
    rw [raised, List.singleton_append, (lowerAfter_filled _ _).1] at starts
    refine ⟨capital, raised, ?_⟩
    rcases lower_shape capital with ⟨small, shape⟩ | shape
    · rw [shape] at starts
      rw [shape, Option.some.inj starts]
    · rw [shape] at starts
      exact absurd (Option.some.inj starts).symm beyond
  by_cases small : isAsciiLower c = true
  · exact returns_of_isAsciiLower small
  · have beyond : c ≠ 'i' := fun letter => small (letter ▸ by decide)
    by_cases ascii : c.toNat < 128
    · have raised : upper c = [c] := by
        rw [upper, if_pos ascii, if_neg small]
      exact single raised beyond
    · have shape : upper c = (mapped? CaseTable.toUpperLong CaseTable.toUpper c.toNat).getD [c] := by
        rw [upper, if_neg ascii]
      rw [mapped?] at shape
      cases long : CaseTable.toUpperLong.lookup c.toNat with
      | some codes =>
          rw [long] at shape
          obtain ⟨front, back, table, -⟩ := List.lookup_eq_some_iff.mp long
          have entry := List.all_eq_true.mp Letter.letters_of_tables.2.2 (c.toNat, codes)
            (table ▸ by simp)
          cases codes with
          | nil => cases entry
          | cons first more =>
              simp only [List.head?_cons, Option.any_some, bne_iff_ne, Char.ofNat_toNat] at entry
              rw [shape, Option.getD_some, List.map_cons, List.cons_append, (lowerAfter_filled _ _).1]
                at starts
              exact absurd starts entry
      | none =>
          rw [long] at shape
          cases short : Shift.image? CaseTable.toUpper c.toNat with
          | some image =>
              rw [short] at shape
              exact single shape beyond
          | none =>
              rw [short] at shape
              exact single shape beyond

/-- An upper case letter has no other upper case form. -/
theorem Letter.upper_of_isUpper (capital : isUpper c = true) : upper c = [c] := by
  by_cases ascii : c.toNat < 128
  · rw [isUpper, if_pos ascii] at capital
    refine (upper_ascii ascii).resolve_right fun ⟨_, pair, _⟩ => ?_
    simp only [isPair, Bool.and_eq_true] at pair
    rw [isAsciiUpper_of_isAsciiLower pair.1.2] at capital
    cases capital
  · rw [isUpper, if_neg ascii, Span.anyContains, List.any_eq_true] at capital
    obtain ⟨span, listed, held⟩ := capital
    have outside {other : Span} (among : other ∈ raisedSpans) : other.contains c.toNat = false :=
      Span.not_contains_of_isApart
        (List.all_eq_true.mp (List.all_eq_true.mp isApart_tables.2 span listed) other among) held
    have long : CaseTable.toUpperLong.lookup c.toNat = none := by
      rw [List.lookup_eq_none_iff]
      intro entry among
      have apart := outside (List.mem_append_left _ (List.mem_map_of_mem among))
      rw [bne_iff_ne]
      intro same
      simp [Span.contains, same] at apart
    have short : Shift.image? CaseTable.toUpper c.toNat = none := by
      rw [Shift.image?, Option.map_eq_none_iff, List.find?_eq_none]
      intro shift among
      rw [outside (List.mem_append_right _ (List.mem_map_of_mem among))]
      exact Bool.false_ne_true
    rw [upper, if_neg ascii, mapped?, long, short]
    rfl

end ApiReview.Text
