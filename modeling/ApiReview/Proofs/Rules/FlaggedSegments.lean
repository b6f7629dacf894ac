import ApiReview.Proofs.Path.Casing
import ApiReview.Rules.ResourceNames

/-! Segments that are flagged by a rule, and paths in which they are rewritten. Each
flagged segment is replaced where it stands, and the segments of the new path are
those that are not empty. -/

set_option autoImplicit false

namespace ApiReview

open ApiReview.Text ApiReview.Rules

variable {path segment : String} {test : Nat → String → Bool} {rename : String → String}
  {position : Nat}

/-! ## Flagged segments -/

theorem mem_flagged : (position, segment) ∈ flagged path test ↔
    (Path.segments path)[position]? = some segment ∧ test position segment = true := by
  rw [flagged, List.mem_filterMap]
  constructor
  · rintro ⟨⟨other, index⟩, numbered, kept⟩
    obtain ⟨hit, same⟩ := Option.ite_none_right_eq_some.mp kept
    cases same
    exact ⟨List.mem_zipIdx_iff_getElem?.mp numbered, hit⟩
  · rintro ⟨here, hit⟩
    exact ⟨(segment, position), List.mem_zipIdx_iff_getElem?.mpr here, if_pos hit⟩

/-- Positions are listed once, so that a look-up finds the segment that is flagged there. -/
theorem lookup_flagged (path : String) (test : Nat → String → Bool) (position : Nat) :
    (flagged path test).lookup position =
      (Path.segments path)[position]?.filter (test position) := by
  cases found : (flagged path test).lookup position with
  | some segment =>
      obtain ⟨front, back, split, -⟩ := List.lookup_eq_some_iff.mp found
      obtain ⟨here, hit⟩ := mem_flagged.mp (split ▸ by simp : (position, segment) ∈ flagged path test)
      rw [here, Option.filter_some, if_pos hit]
  | none =>
      rw [List.lookup_eq_none_iff] at found
      cases here : (Path.segments path)[position]? with
      | none => rfl
      | some segment =>
          rw [Option.filter_some, if_neg]
          intro hit
          have other := found _ (mem_flagged.mpr ⟨here, hit⟩)
          exact bne_iff_ne.mp other rfl

/-! ## Renamed paths -/

/-- The segments of a path with those that a test flags rewritten. -/
def renamedSegments (path : String) (test : Nat → String → Bool) (rename : String → String) :
    List String :=
  (Path.segments path).mapIdx fun position segment =>
    if test position segment then rename segment else segment

theorem renameFlagged_eq (path : String) (test : Nat → String → Bool) (rename : String → String) :
    renameFlagged path (flagged path test) rename =
      Path.ofSegments (renamedSegments path test rename) := by
  rw [renameFlagged, Path.replaceAt, renamedSegments]
  congr 1
  refine List.ext_getElem? fun position => ?_
  rw [List.getElem?_mapIdx, List.getElem?_mapIdx, lookup_flagged]
  cases (Path.segments path)[position]? with
  | none => rfl
  | some segment => by_cases hit : test position segment = true <;> simp [hit, Option.filter]

theorem segment_shape (among : segment ∈ Path.segments path) :
    segment ≠ "" ∧ '/' ∉ segment.toList := by
  obtain ⟨listed, filled⟩ := List.mem_filter.mp among
  obtain ⟨part, cut, rfl⟩ := List.mem_map.mp listed
  rw [String.toList_ofList]
  exact ⟨by simpa using filled, fun inside => (Path.mem_splitOn cut inside).2 rfl⟩

/-- The segments of a renamed path, if no rewritten segment holds a slash. -/
theorem segments_renameFlagged
    (whole : ∀ position segment, (position, segment) ∈ flagged path test →
      '/' ∉ (rename segment).toList) :
    Path.segments (renameFlagged path (flagged path test) rename) =
      (renamedSegments path test rename).filter fun segment => segment != "" := by
  rw [renameFlagged_eq, Path.segments_ofSegments]
  intro part listed
  obtain ⟨position, inside, rfl⟩ := List.mem_mapIdx.mp listed
  split
  · rename_i hit
    exact whole position _ (mem_flagged.mpr ⟨List.getElem?_eq_getElem inside, hit⟩)
  · exact (segment_shape (List.getElem_mem inside)).2

/-- If no rewritten segment is empty either, every segment keeps its place. -/
theorem segments_renameFlagged_of_filled
    (whole : ∀ position segment, (position, segment) ∈ flagged path test →
      rename segment ≠ "" ∧ '/' ∉ (rename segment).toList) :
    Path.segments (renameFlagged path (flagged path test) rename) =
      renamedSegments path test rename := by
  rw [segments_renameFlagged fun position segment listed => (whole position segment listed).2,
    List.filter_eq_self]
  intro part listed
  obtain ⟨position, inside, rfl⟩ := List.mem_mapIdx.mp listed
  rw [bne_iff_ne]
  split
  · rename_i hit
    exact (whole position _ (mem_flagged.mpr ⟨List.getElem?_eq_getElem inside, hit⟩)).1
  · exact (segment_shape (List.getElem_mem inside)).1

end ApiReview
