import ApiReview.Proofs.Path.PluralPlaceholders
import ApiReview.Proofs.Rules.ConsistentCasing
import ApiReview.Proofs.Rules.PluralResources

/-! Templates of renamed paths. A path keeps its template in a rename if no segment is
lost, the segments that were not flagged stay, and so do all placeholders. Plurals lose
no segments, but lower case reaches the placeholders in a head word; other casing styles
lose segments without words, and rewrite placeholders like the text around them. -/

set_option autoImplicit false

namespace ApiReview

open ApiReview.Text ApiReview.Rules

variable {path : String} {test : Nat → String → Bool} {rename : String → String}

/-! ## Renamed paths -/

/-- What a rename owes to the template of a path in which some segments were flagged: the path has
as many segments as before, those that were not flagged are the same, and so are the placeholders. -/
structure KeepsTemplate (path newPath : String) (flags : Nat → String → Bool) : Prop where
  count : (Path.segments newPath).length = (Path.segments path).length
  others : ∀ position segment, (Path.segments path)[position]? = some segment →
    flags position segment = false → (Path.segments newPath)[position]? = some segment
  placeholders : Path.placeholders newPath = Path.placeholders path

theorem renamedSegments_filled_iff : (∀ part ∈ renamedSegments path test rename, part ≠ "") ↔
    ∀ position segment, (position, segment) ∈ flagged path test → rename segment ≠ "" := by
  constructor
  · intro filled position segment listed
    obtain ⟨here, hit⟩ := mem_flagged.mp listed
    refine filled _ (List.mem_of_getElem? (i := position) ?_)
    rw [renamedSegments, List.getElem?_mapIdx, here, Option.map_some, if_pos hit]
  · intro filled part among
    obtain ⟨position, inside, rfl⟩ := List.mem_mapIdx.mp among
    split
    · rename_i hit
      exact filled position _ (mem_flagged.mpr ⟨List.getElem?_eq_getElem inside, hit⟩)
    · exact (segment_shape (List.getElem_mem inside)).1

/-- Placeholders stay in a path if and only if they stay in every flagged segment, if their number
stays there. -/
theorem placeholders_renamed_iff
    (counted : ∀ segment, (Segment.placeholders (rename segment)).length =
      (Segment.placeholders segment).length) :
    (renamedSegments path test rename).flatMap Segment.placeholders = Path.placeholders path ↔
      ∀ position segment, (position, segment) ∈ flagged path test →
        Segment.placeholders (rename segment) = Segment.placeholders segment := by
  have lengths : ((renamedSegments path test rename).map Segment.placeholders).map List.length =
      ((Path.segments path).map Segment.placeholders).map List.length := by
    refine List.ext_getElem? fun position => ?_
    simp only [renamedSegments, List.getElem?_map, List.getElem?_mapIdx]
    cases (Path.segments path)[position]? with
    | none => rfl
    | some segment =>
        by_cases hit : test position segment = true <;> simp [hit, counted]
  rw [Path.placeholders, List.flatMap_def, List.flatMap_def]
  constructor
  · intro same position segment listed
    obtain ⟨here, hit⟩ := mem_flagged.mp listed
    have parts := List.eq_iff_flatten_eq.mpr ⟨same, lengths⟩
    have at_position := congrArg (·[position]?) parts
    simpa [renamedSegments, List.getElem?_mapIdx, here, hit] using at_position
  · intro same
    refine congrArg List.flatten (List.ext_getElem? fun position => ?_)
    simp only [renamedSegments, List.getElem?_map, List.getElem?_mapIdx]
    cases here : (Path.segments path)[position]? with
    | none => rfl
    | some segment =>
        by_cases hit : test position segment = true
        · simp [hit, same position segment (mem_flagged.mpr ⟨here, hit⟩)]
        · simp [hit]

theorem placeholders_renameFlagged
    (whole : ∀ position segment, (position, segment) ∈ flagged path test →
      '/' ∉ (rename segment).toList) :
    Path.placeholders (renameFlagged path (flagged path test) rename) =
      (renamedSegments path test rename).flatMap Segment.placeholders := by
  rw [Path.placeholders, segments_renameFlagged whole]
  induction renamedSegments path test rename with
  | nil => rfl
  | cons part more ih =>
      by_cases empty : part = ""
      · have nothing : Segment.placeholders "" = [] := rfl
        rw [empty, List.filter_cons_of_neg (by simp), ih, List.flatMap_cons, nothing, List.nil_append]
      · rw [List.filter_cons_of_pos (by simpa using empty), List.flatMap_cons, List.flatMap_cons, ih]

/-- A path keeps its template if and only if no flagged segment is lost and all of them keep their
placeholders. -/
theorem keepsTemplate_iff
    (whole : ∀ position segment, (position, segment) ∈ flagged path test →
      '/' ∉ (rename segment).toList)
    (counted : ∀ segment, (Segment.placeholders (rename segment)).length =
      (Segment.placeholders segment).length) :
    KeepsTemplate path (renameFlagged path (flagged path test) rename) test ↔
      ∀ position segment, (position, segment) ∈ flagged path test →
        rename segment ≠ "" ∧
          Segment.placeholders (rename segment) = Segment.placeholders segment := by
  have cut := segments_renameFlagged whole
  have length : (renamedSegments path test rename).length = (Path.segments path).length := by
    rw [renamedSegments, List.length_mapIdx]
  constructor
  · intro keeps position segment listed
    refine ⟨?_, ?_⟩
    · refine renamedSegments_filled_iff.mp ?_ position segment listed
      have same := keeps.count
      rw [cut, ← length, List.length_filter_eq_length_iff] at same
      exact fun part among => by simpa using same part among
    · have same := keeps.placeholders
      rw [placeholders_renameFlagged whole, placeholders_renamed_iff counted] at same
      exact same position segment listed
  · intro keeps
    have places := segments_renameFlagged_of_filled fun position segment listed =>
      ⟨(keeps position segment listed).1, whole position segment listed⟩
    refine ⟨by rw [places, length], fun position segment here free => ?_, ?_⟩
    · rw [places, renamedSegments, List.getElem?_mapIdx, here, Option.map_some, free]
      rfl
    · rw [placeholders_renameFlagged whole, placeholders_renamed_iff counted]
      exact fun position segment listed => (keeps position segment listed).2

/-! ## Plurals and casing styles -/

theorem keepsTemplate_plural_iff {facts : ReviewFacts} (standard : facts.vocabulary = .standard)
    (path : String) :
    KeepsTemplate path (pluralTarget facts path) (isSingularCollection facts path) ↔
      ∀ position segment, (position, segment) ∈ flagged path (isSingularCollection facts path) →
        Segment.placeholders (Segment.recased segment) = Segment.placeholders segment := by
  have counted (segment : String) : (Segment.placeholders (Segment.pluralize .standard segment)).length =
      (Segment.placeholders segment).length := by
    rw [Segment.placeholders_pluralize]
    exact length_placeholders (Segment.filter_recased segment)
  rw [pluralTarget, standard,
    keepsTemplate_iff (fun _ _ listed => (plural_shape standard listed).2) counted]
  refine forall₂_congr fun position segment => imp_congr_right fun listed => ?_
  rw [Segment.placeholders_pluralize]
  exact and_iff_right (plural_shape standard listed).1

theorem slash_not_mem_convert {segment : String} (dominant : CasingStyle)
    (whole : '/' ∉ segment.toList) : '/' ∉ (Segment.convert segment dominant).toList := by
  have signs : Segment.AsksSigns fun c => c == '/' := by
    refine ⟨fun c slash => eq_of_beq slash ▸ by decide, fun c separator => ?_⟩
    simp only [Segment.isSeparator, Bool.or_eq_true, beq_iff_eq] at separator
    rcases separator with rfl | rfl <;> decide
  have same := Segment.filter_convert signs segment dominant
  intro among
  have kept : '/' ∈ (Segment.convert segment dominant).toList.filter fun c => c == '/' :=
    List.mem_filter.mpr ⟨among, by decide⟩
  rw [same] at kept
  exact whole (List.mem_filter.mp kept).1

theorem casing_whole (dominant : CasingStyle) (path : String) : ∀ position segment,
    (position, segment) ∈ flagged path (fun _ segment => hasOtherStyle dominant segment) →
      '/' ∉ (Segment.convert segment dominant).toList :=
  fun _ _ listed => slash_not_mem_convert dominant
    (segment_shape (List.mem_of_getElem? (mem_flagged.mp listed).1)).2

theorem segments_casingTarget (dominant : CasingStyle) (path : String) :
    Path.segments (casingTarget dominant path) =
      (renamedSegments path (fun _ segment => hasOtherStyle dominant segment)
        (Segment.convert · dominant)).filter (· != "") :=
  segments_renameFlagged (casing_whole dominant path)

theorem keepsTemplate_casing_iff (dominant : CasingStyle) (path : String) :
    KeepsTemplate path (casingTarget dominant path) (fun _ segment => hasOtherStyle dominant segment) ↔
      ∀ position segment,
        (position, segment) ∈ flagged path (fun _ segment => hasOtherStyle dominant segment) →
          Segment.words segment ≠ [] ∧
            ∀ name ∈ Segment.placeholders segment, Segment.convert name dominant = name := by
  have counted (segment : String) : (Segment.placeholders (Segment.convert segment dominant)).length =
      (Segment.placeholders segment).length := by
    rw [Segment.placeholders_convert, List.length_map]
  rw [casingTarget, keepsTemplate_iff (casing_whole dominant path) counted]
  refine forall₂_congr fun position segment => imp_congr_right fun _ => ?_
  refine and_congr (Segment.convert_eq_empty_iff segment dominant).not ?_
  rw [Segment.placeholders_convert, ← List.map_eq_map_iff, List.map_id']

/-- When the rename of a path leaves its template as it is. A fix for singulars does if and only if
lower case behind the first letter of the head words leaves the placeholders of the flagged
segments as they are. A fix for the casing does if and only if each flagged segment has words and
its placeholders, taken by themselves, are in the dominant style. -/
theorem renamed_template_iff {settings : Settings} {spec : Node} {found : List Finding}
    {finding : Finding} (among : finding ∈ found) :
    (pluralResources.findingsOn settings .standard spec = .ok found →
      ∃ facts fix, ReviewFacts.ofSpec spec settings .standard = .ok facts ∧
        IsRenaming (pluralTarget facts) finding fix ∧
        Path.segments (pluralTarget facts finding.path) = renamedSegments finding.path
          (isSingularCollection facts finding.path) (Segment.pluralize .standard) ∧
        (KeepsTemplate finding.path (pluralTarget facts finding.path)
            (isSingularCollection facts finding.path) ↔
          ∀ position segment,
            (position, segment) ∈ flagged finding.path (isSingularCollection facts finding.path) →
              Segment.placeholders (Segment.recased segment) = Segment.placeholders segment)) ∧
    (∀ vocabulary, consistentCasing.findingsOn settings vocabulary spec = .ok found →
      ∃ facts dominant fix, ReviewFacts.ofSpec spec settings vocabulary = .ok facts ∧
        mostCommon? (styleCounts (pathTexts facts.spec)) = some dominant ∧
        IsRenaming (casingTarget dominant) finding fix ∧
        Path.segments (casingTarget dominant finding.path) =
          (renamedSegments finding.path (fun _ segment => hasOtherStyle dominant segment)
            (Segment.convert · dominant)).filter (· != "") ∧
        (KeepsTemplate finding.path (casingTarget dominant finding.path)
            (fun _ segment => hasOtherStyle dominant segment) ↔
          ∀ position segment,
            (position, segment) ∈
                flagged finding.path (fun _ segment => hasOtherStyle dominant segment) →
              Segment.words segment ≠ [] ∧
                ∀ name ∈ Segment.placeholders segment, Segment.convert name dominant = name)) := by
  constructor
  · intro reported
    obtain ⟨facts, derived, position, segment, -, proposes⟩ :=
      pluralResources_findings reported among
    have standard := ReviewFacts.vocabulary_ofSpec derived
    exact ⟨facts, _, derived, ⟨proposes.fix, rfl⟩, segments_pluralTarget standard,
      keepsTemplate_plural_iff standard finding.path⟩
  · intro vocabulary reported
    obtain ⟨facts, derived, ran⟩ := Rule.findingsOn_ok reported
    rw [run_consistentCasing, Except.ok.injEq] at ran
    split at ran
    · rw [← ran] at among
      cases among
    · cases common : mostCommon? (styleCounts (pathTexts facts.spec)) with
      | none =>
          rw [common] at ran
          rw [← ran] at among
          cases among
      | some dominant =>
          rw [common] at ran
          obtain ⟨-, fix, renames⟩ := isRenaming_of_mem_casingFindings (ran ▸ among)
          exact ⟨facts, dominant, fix, derived, common, renames, segments_casingTarget dominant _,
            keepsTemplate_casing_iff dominant finding.path⟩

/-- Paths in snake case but for one, whose placeholder is a part of a segment. -/
def hyphenatedPaths : Members :=
  [(.str "paths", .object
    [(.str "/user_profiles/{id}", .object []), (.str "/order_lines", .object []),
     (.str "/items-{itemId}", .object [])])]

theorem renamed_template_iff_partial :
    (∃ facts found key format,
      ReviewFacts.ofSpec (.object singularPaths) {} .standard = .ok facts ∧
      pluralResources.findingsOn {} .standard (.object singularPaths) = .ok found ∧
      key ∈ found ∧ Path.placeholders key.path = ["{id}"] ∧
      KeepsTemplate key.path (pluralTarget facts key.path) (isSingularCollection facts key.path) ∧
      format ∈ found ∧ Path.placeholders format.path = ["{Format}", "{id}"] ∧
      ¬ KeepsTemplate format.path (pluralTarget facts format.path)
        (isSingularCollection facts format.path)) ∧
    ∃ finding, consistentCasing.findingsOn {} .standard (.object hyphenatedPaths) = .ok [finding] ∧
      finding.newPath? = some "/items_{item_id}" ∧
      ¬ KeepsTemplate "/items-{itemId}" (casingTarget .snake "/items-{itemId}")
        (fun _ segment => hasOtherStyle .snake segment) := by
  constructor
  · obtain ⟨facts, found, derived, reported, proposals⟩ := singularPaths_reported
    have recasts : (∀ segment ∈ ["key", "{id}"],
        Segment.placeholders (Segment.recased segment) = Segment.placeholders segment) ∧
        Segment.placeholders (Segment.recased "key.{Format}") ≠
          Segment.placeholders "key.{Format}" := by decide +kernel
    obtain ⟨key, keyFound, keyPath, -, -⟩ := proposals "key" (by decide)
    obtain ⟨format, formatFound, formatPath, listed, -⟩ := proposals "key.{Format}" (by decide)
    obtain ⟨own, -, same, -, -, keyKeeps⟩ := (renamed_template_iff keyFound).1 reported
    obtain ⟨other, -, alike, -, -, formatKeeps⟩ := (renamed_template_iff formatFound).1 reported
    cases derived.symm.trans same
    cases derived.symm.trans alike
    refine ⟨facts, found, key, format, derived, reported, keyFound, ?_, keyKeeps.mpr ?_, formatFound,
      ?_, fun kept => recasts.2 (formatKeeps.mp kept 0 "key.{Format}" listed)⟩
    · rw [Path.placeholders, keyPath]
      decide
    · intro position segment flags
      have here := (mem_flagged.mp flags).1
      rw [keyPath] at here
      exact recasts.1 segment (List.mem_of_getElem? here)
    · rw [Path.placeholders, formatPath]
      decide
  · have course : (consistentCasing.findingsOn {} .standard (.object hyphenatedPaths)).toOption.any
        (fun found => found.map (fun finding => (finding.path, finding.newPath?)) ==
          [("/items-{itemId}", some "/items_{item_id}")]) = true ∧
        (ReviewFacts.ofSpec (.object hyphenatedPaths) {} .standard).toOption.any (fun facts =>
          mostCommon? (styleCounts (pathTexts facts.spec)) == some .snake) = true ∧
        flagged "/items-{itemId}" (fun _ segment => hasOtherStyle .snake segment) =
          [(0, "items-{itemId}")] ∧
        Segment.placeholders "items-{itemId}" = ["{itemId}"] ∧
        Segment.convert "{itemId}" .snake ≠ "{itemId}" := by
      decide +kernel
    obtain ⟨reports, derives, flags, names, changes⟩ := course
    obtain ⟨found, reported, paths⟩ := ok_of_any reports
    obtain ⟨facts, derived, common⟩ := ok_of_any derives
    obtain ⟨finding, rfl⟩ := List.length_eq_one_iff.mp
      (by simpa using congrArg List.length (eq_of_beq paths) : found.length = 1)
    simp only [List.map_cons, List.map_nil, beq_iff_eq, List.cons.injEq, Prod.mk.injEq, and_true]
      at paths common
    obtain ⟨own, dominant, fix, same, counted, -, -, keeps⟩ :=
      (renamed_template_iff List.mem_cons_self).2 .standard reported
    cases derived.symm.trans same
    cases common.symm.trans counted
    rw [paths.1] at keeps
    refine ⟨finding, reported, paths.2, fun kept => ?_⟩
    have stays := (keeps.mp kept 0 "items-{itemId}" (flags ▸ List.mem_cons_self)).2
    exact changes (stays "{itemId}" (names ▸ List.mem_cons_self))

end ApiReview
