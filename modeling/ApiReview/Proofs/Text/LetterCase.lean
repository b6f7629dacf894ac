import Mathlib
import ApiReview.Text.Basic

/-! Lower case of Latin letters. A text that is lowered to small Latin letters is
made of Latin letters already, up to the Kelvin sign, so that its capitals are
those of the lowered text. -/

set_option autoImplicit false

namespace ApiReview.Text

namespace Letter

theorem toNat_bounds_of_isAsciiLower {c : Char} (small : isAsciiLower c = true) :
    97 ≤ c.toNat ∧ c.toNat ≤ 122 := by
  simp only [isAsciiLower, Bool.and_eq_true, decide_eq_true_eq, Char.le_def] at small
  exact ⟨small.1, small.2⟩

theorem toNat_bounds_of_isAsciiUpper {c : Char} (capital : isAsciiUpper c = true) :
    65 ≤ c.toNat ∧ c.toNat ≤ 90 := by
  simp only [isAsciiUpper, Bool.and_eq_true, decide_eq_true_eq, Char.le_def] at capital
  exact ⟨capital.1, capital.2⟩

theorem toNat_ofNat_of_lt {code : Nat} (small : code < 128) : (Char.ofNat code).toNat = code := by
  have valid : code.isValidChar := .inl (by omega)
  simp [Char.ofNat, valid, Char.toNat, Char.ofNatAux]

theorem toNat_ofNat_eq_or (code : Nat) :
    (Char.ofNat code).toNat = code ∨ (Char.ofNat code).toNat = 0 := by
  by_cases valid : code.isValidChar
  · left
    simp [Char.ofNat, valid, Char.toNat, Char.ofNatAux]
  · right
    simp [Char.ofNat, valid, Char.toNat]

/-- A shift of the lower case table that starts behind the ASCII range stays
there, but for the one that takes the Kelvin sign to a letter. -/
private theorem toLower_stays (shift : Shift) (listed : shift ∈ CaseTable.toLower) :
    shift.span.last < 128 ∨ 128 ≤ Int.ofNat shift.span.first + shift.distance ∨
      (shift.span.first = 0x212A ∧ shift.span.last = 0x212A ∧ shift.distance = 107 - 0x212A) := by
  revert shift
  decide +kernel

private theorem image_toLower {code image : Nat} (beyond : 128 ≤ code)
    (shifted : Shift.image? CaseTable.toLower code = some image) :
    128 ≤ image ∨ image = 107 := by
  obtain ⟨shift, found, rfl⟩ := Option.map_eq_some_iff.mp shifted
  have contained := List.find?_some found
  simp only [Span.contains, Bool.and_eq_true, decide_eq_true_eq] at contained
  simp only [Int.ofNat_eq_natCast]
  rcases toLower_stays shift (List.mem_of_find?_eq_some found) with below | stays | kelvin
  · omega
  · left
    simp only [Int.ofNat_eq_natCast] at stays
    omega
  · right
    omega

/-- Whether a character is a small Latin letter to which no other sign than its
capital is lowered. -/
def isOwnLower (c : Char) : Bool := isAsciiLower c && c != 'k'

theorem toNat_of_isOwnLower {c : Char} (own : isOwnLower c = true) :
    97 ≤ c.toNat ∧ c.toNat ≤ 122 ∧ c.toNat ≠ 107 := by
  rw [isOwnLower, Bool.and_eq_true, bne_iff_ne] at own
  obtain ⟨first, last⟩ := toNat_bounds_of_isAsciiLower own.1
  refine ⟨first, last, fun kelvin => own.2 ?_⟩
  rw [← Char.ofNat_toNat c, kelvin]

private theorem ascii_of_lower_own {c : Char} (small : ∀ x ∈ lower c, isOwnLower x = true) :
    c.toNat < 128 := by
  by_contra beyond
  rw [lower, if_neg beyond, mapped?] at small
  cases long : CaseTable.toLowerLong.lookup c.toNat with
  | some codes =>
      have dotted : codes = [0x69, 0x307] := by
        rw [CaseTable.toLowerLong, List.lookup_cons, List.lookup_nil] at long
        cases test : c.toNat == 304 with
        | true =>
            rw [test] at long
            exact (Option.some.inj long).symm
        | false =>
            rw [test] at long
            cases long
      rw [long, dotted] at small
      exact absurd (small (Char.ofNat 0x307) (by simp)) (by decide)
  | none =>
      rw [long] at small
      cases image : Shift.image? CaseTable.toLower c.toNat with
      | none =>
          rw [image] at small
          have bounds := toNat_of_isOwnLower (small c (by simp))
          omega
      | some code =>
          rw [image] at small
          have bounds := toNat_of_isOwnLower (small (Char.ofNat code) (by simp))
          rcases image_toLower (by omega) image with far | letter
          · rcases toNat_ofNat_eq_or code with same | zero <;> omega
          · subst letter
            exact bounds.2.2 rfl

private theorem upper_lower_ascii {c : Char} (within : c.toNat < 128) :
    (lower c).flatMap upper = upper c := by
  by_cases capital : isAsciiUpper c = true
  · obtain ⟨first, last⟩ := toNat_bounds_of_isAsciiUpper capital
    have code : (Char.ofNat (c.toNat + 32)).toNat = c.toNat + 32 := toNat_ofNat_of_lt (by omega)
    have small : isAsciiLower (Char.ofNat (c.toNat + 32)) = true := by
      have above : 97 ≤ (Char.ofNat (c.toNat + 32)).toNat := by omega
      have below : (Char.ofNat (c.toNat + 32)).toNat ≤ 122 := by omega
      simp only [isAsciiLower, Bool.and_eq_true, decide_eq_true_eq, Char.le_def]
      exact ⟨above, below⟩
    have notSmall : isAsciiLower c ≠ true := fun claimed => by
      have bounds := toNat_bounds_of_isAsciiLower claimed
      omega
    rw [lower, if_pos within, if_pos capital, List.flatMap_singleton, upper, code,
      if_pos (by omega), if_pos small, Nat.add_sub_cancel, Char.ofNat_toNat, upper,
      if_pos within, if_neg notSmall]
  · rw [lower, if_pos within, if_neg capital, List.flatMap_singleton]

end Letter

/-- Where no capital sigma stands, lowering is by character. -/
theorem lowerAfter_eq_flatMap {before text : List Char} (plain : ∀ c ∈ text, c.toNat ≠ 0x3A3) :
    lowerAfter before text = text.flatMap Letter.lower := by
  induction text generalizing before with
  | nil => rfl
  | cons c rest ih =>
      have noSigma : (c.toNat == 0x3A3) = false :=
        beq_eq_false_iff_ne.mpr (plain c List.mem_cons_self)
      rw [lowerAfter, noSigma, ih fun d among => plain d (List.mem_cons_of_mem c among)]
      rfl

private theorem plain_of_own {before text : List Char}
    (small : ∀ x ∈ lowerAfter before text, Letter.isOwnLower x = true) :
    ∀ c ∈ text, c.toNat ≠ 0x3A3 := by
  induction text generalizing before with
  | nil => simp
  | cons c rest ih =>
      rw [lowerAfter] at small
      intro d among sigma
      rcases List.mem_cons.mp among with rfl | among
      · rw [if_pos (by simp [sigma])] at small
        have letter := small _ (List.mem_append_left _ (List.mem_singleton.mpr rfl))
        split at letter <;> exact absurd letter (by decide)
      · exact ih (fun x inside => small x (List.mem_append_right _ inside)) d among sigma

/-- The capitals of a text that is small Latin letters other than `k` once lowered
are those of the lowered text. -/
theorem upper_lower {text : String}
    (small : ∀ x ∈ (lower text).toList, Letter.isOwnLower x = true) :
    upper (lower text) = upper text := by
  rw [lower, String.toList_ofList, lowerChars] at small
  have plain := plain_of_own small
  rw [lowerAfter_eq_flatMap plain] at small
  have each : ∀ c ∈ text.toList, (Letter.lower c).flatMap Letter.upper = Letter.upper c :=
    fun c among => Letter.upper_lower_ascii <| Letter.ascii_of_lower_own fun x inside =>
      small x (List.mem_flatMap.mpr ⟨c, among, inside⟩)
  rw [upper, upper, lower, String.toList_ofList, lowerChars, lowerAfter_eq_flatMap plain,
    upperChars, upperChars, List.flatMap_assoc]
  exact congrArg String.ofList (List.flatMap_congr each)

end ApiReview.Text
