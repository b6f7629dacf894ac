import ApiReview.Path.Basic
import ApiReview.Proofs.Text.Lowered

/-! Placeholders in paths. A placeholder is an opening brace, a name without braces
and a closing brace; it may be a whole segment or stand anywhere inside one. How many
there are in a text is seen from its braces alone, and texts without braces may be put
in its place between two braces without an effect on other placeholders. -/

set_option autoImplicit false

namespace ApiReview

open ApiReview.Text

/-! ## Placeholders -/

def isBrace (c : Char) : Bool := c == '\x7b' || c == '\x7d'

/-- The placeholders that are closed in a text, in order; `name?` is what was read since the last
brace, last character first, if that was an opening one. -/
def placeholdersAfter (name? : Option (List Char)) : List Char → List (List Char)
  | [] => []
  | c :: rest =>
    if c == '\x7b' then placeholdersAfter (some []) rest
    else if c == '\x7d' then
      (name?.map fun name => '\x7b' :: name.reverse ++ ['\x7d']).toList ++
        placeholdersAfter none rest
    else placeholdersAfter (name?.map (c :: ·)) rest

/-- The placeholders in a segment. -/
def Segment.placeholders (segment : String) : List String :=
  (placeholdersAfter none segment.toList).map String.ofList

/-- The placeholders in the segments of a path. -/
def Path.placeholders (path : String) : List String :=
  (Path.segments path).flatMap Segment.placeholders

/-- A placeholder may be a part of a segment, and one that is not closed is none. -/
example : Path.placeholders "/files/{name}/report.{format}/\x7bopen" = ["{name}", "{format}"] := by
  decide +kernel

/-! ## Texts without braces -/

variable {text plain rest other behind : List Char} {name? : Option (List Char)}

/-- Whether no character of a text is a brace. -/
def IsPlain (text : List Char) : Prop := ∀ c ∈ text, isBrace c = false

theorem isMark_brace {c : Char} (brace : isBrace c = true) :
    Letter.isMark c = true ∧ Letter.partsCase c = true := by
  simp only [isBrace, Bool.or_eq_true, beq_iff_eq] at brace
  rcases brace with rfl | rfl <;> decide +kernel

theorem placeholdersAfter_plain (isPlain : IsPlain plain) (name? : Option (List Char))
    (rest : List Char) : placeholdersAfter name? (plain ++ rest) =
      placeholdersAfter (name?.map (plain.reverse ++ ·)) rest := by
  induction plain generalizing name? with
  | nil =>
      have same : name?.map ([] ++ ·) = name? := by cases name? <;> rfl
      rw [List.reverse_nil, same, List.nil_append]
  | cons c more ih =>
      have inner := isPlain c List.mem_cons_self
      simp only [isBrace, Bool.or_eq_false_iff] at inner
      rw [List.cons_append, placeholdersAfter, inner.1, inner.2, if_neg Bool.false_ne_true,
        if_neg Bool.false_ne_true, ih fun d among => isPlain d (List.mem_cons_of_mem _ among),
        Option.map_map]
      simp [Function.comp_def]

theorem placeholdersAfter_of_plain (isPlain : IsPlain plain) : placeholdersAfter name? plain = [] := by
  rw [← List.append_nil plain, placeholdersAfter_plain isPlain]
  rfl

theorem placeholdersAfter_append_plain (isPlain : IsPlain plain) (name? : Option (List Char))
    (text : List Char) : placeholdersAfter name? (text ++ plain) = placeholdersAfter name? text := by
  induction text generalizing name? with
  | nil => exact placeholdersAfter_of_plain isPlain
  | cons c more ih => simp only [List.cons_append, placeholdersAfter, ih]

/-- A text is plain up to its first brace. -/
theorem exists_first_brace (text : List Char) :
    IsPlain text ∨ ∃ plain brace rest, text = plain ++ brace :: rest ∧ IsPlain plain ∧
      isBrace brace = true := by
  induction text with
  | nil => exact .inl (by simp [IsPlain])
  | cons c more ih =>
      cases brace : isBrace c with
      | true => exact .inr ⟨[], c, more, rfl, by simp [IsPlain], brace⟩
      | false =>
          rcases ih with isPlain | ⟨plain, first, rest, rfl, isPlain, closes⟩
          · exact .inl (List.forall_mem_cons.mpr ⟨brace, isPlain⟩)
          · exact .inr ⟨c :: plain, first, rest, rfl, List.forall_mem_cons.mpr ⟨brace, isPlain⟩,
              closes⟩

/-! ## Numbers of placeholders -/

/-- How many placeholders are closed in a text is seen from its braces. -/
theorem length_placeholdersAfter (name? : Option (List Char)) (text : List Char) :
    (placeholdersAfter name? text).length =
      (placeholdersAfter (name?.map fun _ => []) (text.filter isBrace)).length := by
  induction text generalizing name? with
  | nil => rfl
  | cons c rest ih =>
      rw [placeholdersAfter]
      split
      · rename_i opens
        rw [List.filter_cons_of_pos (by rw [isBrace, opens]; rfl), placeholdersAfter, if_pos opens,
          ih]
        rfl
      · split
        · rename_i inner closes
          rw [List.filter_cons_of_pos (by rw [isBrace, closes, Bool.or_true]), placeholdersAfter,
            if_neg inner, if_pos closes, List.length_append, List.length_append, ih]
          cases name? <;> rfl
        · rename_i inner plain
          rw [List.filter_cons_of_neg (by simp [isBrace, inner, plain]), ih, Option.map_map]
          rfl

theorem length_placeholders {segment renamed : String}
    (braces : renamed.toList.filter isBrace = segment.toList.filter isBrace) :
    (Segment.placeholders renamed).length = (Segment.placeholders segment).length := by
  rw [Segment.placeholders, Segment.placeholders, List.length_map, List.length_map,
    length_placeholdersAfter, braces, ← length_placeholdersAfter]

/-! ## Texts that are rewritten between braces -/

theorem isPlain_iff : IsPlain text ↔ text.filter isBrace = [] := by
  simp [IsPlain, List.filter_eq_nil_iff]

/-- A way to rewrite texts that does it in parts around each brace: what is in front of a brace and
what is behind it do not depend on each other, and braces stay. -/
structure Recasts (rewrite front back : List Char → List Char) : Prop where
  cut : ∀ text brace rest, isBrace brace = true →
    rewrite (text ++ brace :: rest) = front text ++ brace :: back rest
  start : front [] = []
  finish : back [] = []
  braces : ∀ text, (rewrite text).filter isBrace = text.filter isBrace ∧
    (front text).filter isBrace = text.filter isBrace ∧
    (back text).filter isBrace = text.filter isBrace

namespace Recasts

variable {rewrite front back : List Char → List Char} (recasts : Recasts rewrite front back)

include recasts

/-- What is between two braces is rewritten as between the braces of a placeholder. -/
theorem between (isPlain : IsPlain plain) : ∃ name, IsPlain name ∧
    rewrite ('\x7b' :: plain ++ ['\x7d']) = '\x7b' :: name ++ ['\x7d'] ∧
    ∀ brace rest, isBrace brace = true →
      back (plain ++ brace :: rest) = name ++ brace :: back rest := by
  have both (brace : Char) (rest : List Char) (isOne : isBrace brace = true) :
      '\x7b' :: back (plain ++ brace :: rest) = front ('\x7b' :: plain) ++ brace :: back rest := by
    have whole := recasts.cut [] '\x7b' (plain ++ brace :: rest) (by decide)
    rw [recasts.start, List.nil_append, List.nil_append] at whole
    rw [← whole, ← List.cons_append, recasts.cut _ brace rest isOne]
  have closed := both '\x7d' [] (by decide)
  cases shape : front ('\x7b' :: plain) with
  | nil =>
      rw [shape] at closed
      cases closed
  | cons first name =>
      rw [shape, List.cons_append] at closed
      obtain ⟨rfl, -⟩ := List.cons.inj closed
      refine ⟨name, ?_, ?_, fun brace rest isOne => ?_⟩
      · have same := (recasts.braces ('\x7b' :: plain)).2.1
        rw [shape, List.filter_cons_of_pos (by decide), List.filter_cons_of_pos (by decide),
          isPlain_iff.mp isPlain] at same
        exact isPlain_iff.mpr (List.cons.inj same).2
      · rw [recasts.cut ('\x7b' :: plain) '\x7d' [] (by decide), shape, recasts.finish]
      · have split := both brace rest isOne
        rw [shape, List.cons_append] at split
        exact (List.cons.inj split).2

theorem placeholdersAfter_back (opened : Bool) (text : List Char) :
    placeholdersAfter (if opened then some [] else none) (back text) =
      (placeholdersAfter (if opened then some [] else none) text).map rewrite := by
  rcases exists_first_brace text with isPlain | ⟨plain, brace, rest, split, isPlain, isOne⟩
  · have same := (recasts.braces text).2.2
    rw [isPlain_iff.mp isPlain] at same
    rw [placeholdersAfter_of_plain isPlain, placeholdersAfter_of_plain (isPlain_iff.mpr same)]
    rfl
  · obtain ⟨name, isPlainName, whole, cuts⟩ := recasts.between isPlain
    have shorter : rest.length < text.length := by
      rw [split, List.length_append, List.length_cons]
      omega
    have openRest := placeholdersAfter_back true rest
    have closedRest : placeholdersAfter none (back rest) = _ := placeholdersAfter_back false rest
    rw [split, cuts brace rest isOne, placeholdersAfter_plain isPlainName,
      placeholdersAfter_plain isPlain, placeholdersAfter, placeholdersAfter]
    split
    · exact openRest
    · rename_i closes
      have isClosing : (brace == '\x7d') = true := by
        rw [isBrace, Bool.or_eq_true] at isOne
        exact isOne.resolve_left closes
      rw [if_pos isClosing, if_pos isClosing, List.map_append, closedRest]
      congr 1
      cases opened with
      | true => simpa using whole.symm
      | false => rfl
termination_by text.length

/-- The placeholders of a rewritten text are the placeholders, rewritten each by itself. -/
theorem placeholdersAfter_rewrite (text : List Char) :
    placeholdersAfter none (rewrite text) = (placeholdersAfter none text).map rewrite := by
  rcases exists_first_brace text with isPlain | ⟨plain, brace, rest, rfl, isPlain, isOne⟩
  · have same := (recasts.braces text).1
    rw [isPlain_iff.mp isPlain] at same
    rw [placeholdersAfter_of_plain isPlain, placeholdersAfter_of_plain (isPlain_iff.mpr same)]
    rfl
  · have same := (recasts.braces plain).2.1
    rw [isPlain_iff.mp isPlain] at same
    have openRest := recasts.placeholdersAfter_back true rest
    have closedRest := recasts.placeholdersAfter_back false rest
    rw [recasts.cut plain brace rest isOne, placeholdersAfter_plain (isPlain_iff.mpr same),
      placeholdersAfter_plain isPlain, Option.map_none, Option.map_none, placeholdersAfter,
      placeholdersAfter]
    split
    · exact openRest
    · split
      · exact closedRest
      · exact closedRest

end Recasts

end ApiReview
