import Mathlib
import ApiReview.Number.Integer

/-! Positions in decimal. The digits of a number are read back as the number, and
those of a number that can be written are few enough to be read. -/

set_option autoImplicit false

namespace ApiReview

open ApiReview.Text

theorem decimalValue?_of_isDigit {c : Char} (digit : c.isDigit = true) :
    Letter.decimalValue? c = some (c.toNat - '0'.toNat) ∧ Letter.isAsciiDigit c = true := by
  have ascii : Letter.isAsciiDigit c = true := by
    simpa [Char.isDigit, Letter.isAsciiDigit, Char.le_def] using digit
  have small : c.toNat < 128 := by
    simp only [Letter.isAsciiDigit, Bool.and_eq_true, decide_eq_true_eq, Char.le_def] at ascii
    have last : c.toNat ≤ 57 := ascii.2
    omega
  rw [Letter.decimalValue?, if_pos small, if_pos ascii]
  exact ⟨rfl, ascii⟩

theorem ofDigits?_eq {digits : List Char} (ascii : ∀ c ∈ digits, c.isDigit = true) :
    Integer.ofDigits? digits = some (Nat.ofDigitChars 10 digits 0) := by
  have folded : ∀ number : Nat, digits.foldl (fun number digit => do
      let number ← number
      let value ← Letter.decimalValue? digit
      some (10 * number + value)) (some number) = some (Nat.ofDigitChars 10 digits number) := by
    induction digits with
    | nil => intro number; rfl
    | cons c rest ih =>
        intro number
        have value := (decimalValue?_of_isDigit (ascii c List.mem_cons_self)).1
        rw [List.foldl_cons, Nat.ofDigitChars_cons]
        simp only [value, Option.bind_eq_bind, Option.bind_some]
        exact ih (fun d among => ascii d (List.mem_cons_of_mem c among)) _
  exact folded 0

theorem isDigit_of_mem_toDigits {number : Nat} {c : Char} (among : c ∈ Nat.toDigits 10 number) :
    c.isDigit = true :=
  Nat.isDigit_of_mem_toDigits (by omega) (by omega) among

theorem ofDigits?_toDigits (number : Nat) :
    Integer.ofDigits? (Nat.toDigits 10 number) = some number := by
  rw [ofDigits?_eq fun c among => isDigit_of_mem_toDigits among, Nat.ofDigitChars_ten_toDigits]

theorem head?_toDigits {number : Nat} (positive : 0 < number) :
    (Nat.toDigits 10 number).head? ≠ some '0' := by
  induction number using Nat.strong_induction_on with
  | _ number ih =>
      by_cases single : number < 10
      · rw [Nat.toDigits_of_lt_base single]
        interval_cases number <;> decide
      · -- The first digit is that of the number without its last.
        rw [Nat.toDigits_of_base_le (by omega) (by omega), List.head?_append_of_ne_nil _
          Nat.toDigits_ne_nil]
        exact ih (number / 10) (by omega) (by omega)

/-- Of several digits the first is no zero. -/
theorem no_leading_zero (number : Nat) :
    ((Nat.toDigits 10 number).head? == some '0' && decide (1 < (Nat.toDigits 10 number).length)) =
      false := by
  cases number with
  | zero => decide
  | succ number => simp [head?_toDigits (Nat.succ_pos number)]

/-- A number has too many digits to be read exactly if it has too many to be written. -/
theorem isTooLong_toDigits (number : Nat) :
    Integer.isTooLong (Nat.toDigits 10 number) = Integer.isUnwritable (.ofNat number) := by
  have few := Nat.length_toDigits_le_iff (n := number) (show 1 < 10 by omega)
    (show 0 < Integer.digitLimit by decide)
  rw [Integer.isTooLong, Integer.isUnwritable]
  generalize Integer.digitLimit = limit at few ⊢
  rw [decide_eq_decide, ← Nat.not_le, few, Nat.not_lt]
  rfl

theorem toDigits_decimal {c : Char} (digit : c.isDigit = true) :
    c.toNat - '0'.toNat < 10 ∧ Nat.toDigits 10 (c.toNat - '0'.toNat) = [c] := by
  have range : 48 ≤ c.toNat ∧ c.toNat ≤ 57 := Char.isDigit_iff_toNat.mp digit
  obtain ⟨value, code⟩ : ∃ value, c.toNat = 48 + value := ⟨c.toNat - 48, by omega⟩
  have small : value < 10 := by omega
  have shape : c = Char.ofNat (48 + value) := by rw [← code, Char.ofNat_toNat]
  subst shape
  interval_cases value <;> exact ⟨by decide, rfl⟩

/-- Digits that do not start with a zero, unless it is the only one, are those of the number that
they stand for. -/
theorem toDigits_ofDigitChars {digits : List Char} (decimal : ∀ c ∈ digits, c.isDigit = true)
    (nonempty : digits ≠ []) (front : digits.head? = some '0' → digits = ['0']) :
    Nat.toDigits 10 (Nat.ofDigitChars 10 digits 0) = digits := by
  induction digits using List.reverseRecOn with
  | nil => exact absurd rfl nonempty
  | append_singleton digits last ih =>
      obtain ⟨small, single⟩ := toDigits_decimal (decimal last (by simp))
      rw [Nat.ofDigitChars_append, Nat.ofDigitChars_cons, Nat.ofDigitChars_nil]
      by_cases alone : digits = []
      · rw [alone, Nat.ofDigitChars_nil, Nat.mul_zero, Nat.zero_add, single, List.nil_append]
      have noZero : digits.head? ≠ some '0' := by
        intro zero
        have whole := front (by rw [List.head?_append, zero, Option.some_or])
        have size := congrArg List.length whole
        have some_digit := List.length_pos_of_ne_nil alone
        simp only [List.length_append, List.length_singleton] at size
        omega
      have before := ih (fun c among => decimal c (by simp [among])) alone
        fun zero => absurd zero noZero
      have positive : 0 < Nat.ofDigitChars 10 digits 0 := by
        refine Nat.pos_of_ne_zero fun zero => noZero ?_
        rw [zero] at before
        rw [← before]
        rfl
      rw [← Nat.toDigits_append_toDigits (by omega) positive small, before, single]

theorem decimalValue?_lt {c : Char} {value : Nat} (read : Letter.decimalValue? c = some value) :
    value < 10 := by
  rw [Letter.decimalValue?] at read
  split at read
  · split at read
    · rename_i ascii
      cases read
      simp only [Letter.isAsciiDigit, Bool.and_eq_true, decide_eq_true_eq, Char.le_def] at ascii
      have last : c.toNat ≤ 57 := ascii.2
      have zero : '0'.toNat = 48 := rfl
      omega
    · cases read
  · obtain ⟨_, _, among⟩ := List.mem_flatMap.mp (List.mem_of_head? read)
    exact List.mem_range.mp (List.mem_filter.mp among).1

theorem ofDigits?_lt {digits : List Char} {number : Nat}
    (read : Integer.ofDigits? digits = some number) : number < 10 ^ digits.length := by
  induction digits using List.reverseRecOn generalizing number with
  | nil =>
      cases read
      decide
  | append_singleton digits digit ih =>
      rw [Integer.ofDigits?, List.foldl_append] at read
      obtain ⟨front, before, read⟩ := Option.bind_eq_some_iff.mp read
      obtain ⟨value, last, same⟩ := Option.bind_eq_some_iff.mp read
      cases same
      have small := ih before
      have single := decimalValue?_lt last
      rw [List.length_append, List.length_singleton, Nat.pow_succ]
      omega

end ApiReview
