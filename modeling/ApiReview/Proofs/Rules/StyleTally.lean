import Mathlib
import ApiReview.Rules.ResourceNames

/-! Tallies of casing styles. A tally has one entry for each style that marks a
segment, with the number of segments. What the entries are does not depend on the
order of the paths; which style is the most common one does only when two share the
first place. -/

set_option autoImplicit false

namespace ApiReview

open ApiReview.Rules

/-! ## Styles that are counted -/

theorem mem_countStyle {style : CasingStyle} {counts : List (CasingStyle × Nat)}
    {entry : CasingStyle × Nat} (counted : entry ∈ countStyle style counts) :
    entry.1 = style ∨ ∃ other ∈ counts, other.1 = entry.1 := by
  induction counts with
  | nil =>
      cases List.mem_singleton.mp counted
      exact .inl rfl
  | cons first rest ih =>
      obtain ⟨known, count⟩ := first
      rw [countStyle] at counted
      split at counted
      · rename_i same
        rcases List.mem_cons.mp counted with rfl | behind
        · exact .inl same
        · exact .inr ⟨entry, List.mem_cons_of_mem _ behind, rfl⟩
      · rcases List.mem_cons.mp counted with rfl | behind
        · exact .inr ⟨_, List.mem_cons_self, rfl⟩
        · rcases ih behind with same | ⟨other, held, same⟩
          · exact .inl same
          · exact .inr ⟨other, List.mem_cons_of_mem _ held, same⟩

theorem mem_foldl_countStyle {styles : List CasingStyle} {counts : List (CasingStyle × Nat)}
    {entry : CasingStyle × Nat}
    (counted : entry ∈ styles.foldl (fun counts style => countStyle style counts) counts) :
    entry.1 ∈ styles ∨ ∃ other ∈ counts, other.1 = entry.1 := by
  induction styles generalizing counts with
  | nil => exact .inr ⟨entry, counted, rfl⟩
  | cons style rest ih =>
      rcases ih counted with listed | ⟨other, held, same⟩
      · exact .inl (List.mem_cons_of_mem _ listed)
      · rcases mem_countStyle held with first | before
        · exact .inl (by rw [← same, first]; exact List.mem_cons_self)
        · exact .inr (same ▸ before)

/-- Styles without marks are not counted. -/
theorem marked_of_mem_styleCounts {paths : List String} {entry : CasingStyle × Nat}
    (counted : entry ∈ styleCounts paths) : entry.1 ≠ .lower := by
  rcases mem_foldl_countStyle counted with listed | ⟨other, held, -⟩
  · simpa using (List.mem_filter.mp listed).2
  · cases held

theorem length_foldl_countStyle {dominant : CasingStyle} {styles : List CasingStyle}
    {counts : List (CasingStyle × Nat)} (same : ∀ style ∈ styles, style = dominant)
    (held : ∀ entry ∈ counts, entry.1 = dominant) (few : counts.length < 2) :
    (styles.foldl (fun counts style => countStyle style counts) counts).length < 2 := by
  induction styles generalizing counts with
  | nil => exact few
  | cons style rest ih =>
      have first : style = dominant := same style List.mem_cons_self
      subst first
      refine ih (fun other listed => same other (List.mem_cons_of_mem _ listed)) ?_ ?_
      · intro entry counted
        rcases mem_countStyle counted with here | ⟨other, before, equal⟩
        · exact here
        · exact equal ▸ held other before
      · match counts, held, few with
        | [], _, _ => exact Nat.one_lt_two
        | [(known, count)], held, _ =>
            have known_eq : known = style := held _ List.mem_cons_self
            simp [countStyle, known_eq]

/-- Where every segment has one style or no marks, one style is counted at most. -/
theorem length_styleCounts {paths : List String} {dominant : CasingStyle}
    (uniform : ∀ path ∈ paths, ∀ segment ∈ Path.resources path,
      Segment.style segment = dominant ∨ Segment.style segment = .lower) :
    (styleCounts paths).length < 2 := by
  have none_before : ∀ entry ∈ ([] : List (CasingStyle × Nat)), entry.1 = dominant := by simp
  refine length_foldl_countStyle (fun style listed => ?_) none_before Nat.two_pos
  obtain ⟨counted, marked⟩ := List.mem_filter.mp listed
  obtain ⟨segment, found, rfl⟩ := List.mem_map.mp counted
  obtain ⟨path, among, inside⟩ := List.mem_flatMap.mp found
  exact (uniform path among segment inside).resolve_right (by simpa using marked)

/-! ## Counts -/

section Counts

variable {style other : CasingStyle} {counts : List (CasingStyle × Nat)}

theorem lookup_countStyle : (countStyle style counts).lookup other =
    if other = style then some ((counts.lookup style).getD 0 + 1) else counts.lookup other := by
  induction counts with
  | nil =>
      by_cases same : other = style
      · simp [countStyle, same]
      · simp [countStyle, same]
  | cons first rest ih =>
      obtain ⟨known, count⟩ := first
      rw [countStyle]
      by_cases here : known = style
      · subst here
        by_cases same : other = known
        · simp [same]
        · have apart : (other == known) = false := beq_eq_false_iff_ne.mpr same
          simp [List.lookup_cons, same, apart]
      · rw [if_neg here, List.lookup_cons, List.lookup_cons, List.lookup_cons, ih]
        by_cases first : other = known
        · subst first
          simp [here]
        · have different : (style == known) = false := beq_eq_false_iff_ne.mpr (Ne.symm here)
          have apart : (other == known) = false := beq_eq_false_iff_ne.mpr first
          simp [different, apart]

theorem nodup_countStyle (distinct : (counts.map (·.1)).Nodup) :
    ((countStyle style counts).map (·.1)).Nodup := by
  induction counts with
  | nil => exact List.nodup_singleton _
  | cons first rest ih =>
      obtain ⟨known, count⟩ := first
      obtain ⟨fresh, distinct⟩ := List.nodup_cons.mp distinct
      rw [countStyle]
      split
      · exact List.nodup_cons.mpr ⟨fresh, distinct⟩
      · rename_i different
        refine List.nodup_cons.mpr ⟨fun among => ?_, ih distinct⟩
        obtain ⟨entry, counted, same⟩ := List.mem_map.mp among
        rcases mem_countStyle counted with here | ⟨before, held, equal⟩
        · exact different (same.symm.trans here)
        · exact fresh (List.mem_map.mpr ⟨before, held, equal.trans same⟩)

theorem lookup_foldl_countStyle (styles : List CasingStyle) :
    (styles.foldl (fun counts style => countStyle style counts) counts).lookup other =
      if styles.count other = 0 then counts.lookup other
      else some ((counts.lookup other).getD 0 + styles.count other) := by
  induction styles generalizing counts with
  | nil => rfl
  | cons style rest ih =>
      rw [List.foldl_cons, ih, lookup_countStyle, List.count_cons]
      by_cases same : other = style
      · subst same
        by_cases last : rest.count other = 0
        · simp [last]
        · simp [last, Nat.add_assoc, Nat.add_comm 1]
      · have different : (style == other) = false := beq_eq_false_iff_ne.mpr (Ne.symm same)
        simp [same, different]

theorem nodup_foldl_countStyle (styles : List CasingStyle) (distinct : (counts.map (·.1)).Nodup) :
    ((styles.foldl (fun counts style => countStyle style counts) counts).map (·.1)).Nodup := by
  induction styles generalizing counts with
  | nil => exact distinct
  | cons style rest ih => exact ih (nodup_countStyle distinct)

theorem mem_iff_lookup (distinct : (counts.map (·.1)).Nodup) {entry : CasingStyle × Nat} :
    entry ∈ counts ↔ counts.lookup entry.1 = some entry.2 := by
  induction counts with
  | nil => simp
  | cons first rest ih =>
      obtain ⟨known, count⟩ := first
      obtain ⟨style, number⟩ := entry
      obtain ⟨fresh, apart⟩ := List.nodup_cons.mp distinct
      by_cases same : style = known
      · subst same
        have gone : (style, number) ∉ rest := fun among =>
          fresh (List.mem_map.mpr ⟨_, among, rfl⟩)
        simp [gone, eq_comm]
      · have different : (style == known) = false := beq_eq_false_iff_ne.mpr same
        simp [same, different, List.lookup_cons, ih apart]

end Counts

/-- The tally of the paths has the same entries in whatever order the paths come. -/
theorem styleCounts_perm {first second : List String} (permuted : first.Perm second) :
    (styleCounts first).Perm (styleCounts second) := by
  have distinct (paths : List String) : ((styleCounts paths).map (·.1)).Nodup :=
    nodup_foldl_countStyle _ List.nodup_nil
  refine (List.perm_ext_iff_of_nodup (distinct first).of_map (distinct second).of_map).mpr
    fun entry => ?_
  rw [mem_iff_lookup (distinct first), mem_iff_lookup (distinct second)]
  have styles := ((permuted.flatMap_right Path.resources).map Segment.style).filter
    fun style => style != .lower
  simp only [styleCounts, lookup_foldl_countStyle, styles.count_eq]

/-! ## The most common style -/

def isTied (counts : List (CasingStyle × Nat)) : Bool :=
  counts.any fun first => counts.any fun second =>
    first.1 != second.1 && first.2 == second.2 && counts.all fun other => decide (other.2 ≤ first.2)

section MostCommon

variable {counts others : List (CasingStyle × Nat)} {dominant : CasingStyle}

theorem foldl_most_spec (best : CasingStyle × Nat) (rest : List (CasingStyle × Nat)) :
    rest.foldl (fun best next => if best.2 < next.2 then next else best) best ∈ best :: rest ∧
      ∀ other ∈ best :: rest,
        other.2 ≤ (rest.foldl (fun best next => if best.2 < next.2 then next else best) best).2 := by
  induction rest generalizing best with
  | nil => simp
  | cons next rest ih =>
      rw [List.foldl_cons]
      split
      · rename_i more
        obtain ⟨counted, most⟩ := ih next
        refine ⟨List.mem_cons_of_mem _ counted, fun other among => ?_⟩
        rcases List.mem_cons.mp among with rfl | behind
        · exact more.le.trans (most next List.mem_cons_self)
        · exact most other behind
      · rename_i less
        obtain ⟨counted, most⟩ := ih best
        refine ⟨List.cons_subset_cons _ (List.subset_cons_self _ _) counted, fun other among => ?_⟩
        rcases List.mem_cons.mp among with rfl | behind
        · exact most _ List.mem_cons_self
        · rcases List.mem_cons.mp behind with rfl | last
          · exact (Nat.le_of_not_lt less).trans (most best List.mem_cons_self)
          · exact most other (List.mem_cons_of_mem _ last)

/-- The most common style was counted, and no style was counted more often. -/
theorem mostCommon?_spec (common : mostCommon? counts = some dominant) :
    ∃ entry ∈ counts, entry.1 = dominant ∧ ∀ other ∈ counts, other.2 ≤ entry.2 := by
  cases counts with
  | nil => cases common
  | cons first rest =>
      cases common
      obtain ⟨counted, most⟩ := foldl_most_spec first rest
      exact ⟨_, counted, rfl, most⟩

theorem mostCommon?_perm (permuted : counts.Perm others) (untied : isTied counts = false) :
    mostCommon? counts = mostCommon? others := by
  cases common : mostCommon? counts with
  | none =>
      cases counts with
      | nil => rw [permuted.symm.eq_nil, mostCommon?]
      | cons first rest => cases common
  | some dominant =>
      cases commonThere : mostCommon? others with
      | none =>
          cases others with
          | nil =>
              rw [permuted.eq_nil] at common
              cases common
          | cons first rest => cases commonThere
      | some other =>
          obtain ⟨entry, counted, rfl, most⟩ := mostCommon?_spec common
          obtain ⟨rival, countedThere, rfl, mostThere⟩ := mostCommon?_spec commonThere
          by_contra different
          refine absurd untied (Bool.not_eq_false _ ▸ ?_)
          have level : entry.2 = rival.2 :=
            (mostThere entry (permuted.mem_iff.mp counted)).antisymm
              (most rival (permuted.mem_iff.mpr countedThere))
          refine List.any_eq_true.mpr ⟨entry, counted, List.any_eq_true.mpr
            ⟨rival, permuted.mem_iff.mpr countedThere, ?_⟩⟩
          have apart : entry.1 ≠ rival.1 := fun same => different (congrArg some same)
          simpa [apart, level] using fun style count held => level ▸ most (style, count) held

end MostCommon
end ApiReview
