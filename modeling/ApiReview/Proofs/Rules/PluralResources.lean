import ApiReview.Proofs.Path.PluralSegments
import ApiReview.Proofs.Rules.Findings
import ApiReview.Proofs.Rules.FlaggedSegments

/-! Names of collections that are made plural. Each finding about a path proposes to
put the plural of a segment in the place of the segment. That settles the matter if
the rules for endings can make the plural singular again; words in `s` that are
taken for plurals as they are, and the like, are proposed as they stand. -/

set_option autoImplicit false

namespace ApiReview

open ApiReview.Text ApiReview.Rules

variable {settings : Settings} {spec : Node} {facts : ReviewFacts} {context : RuleContext}
  {path segment : String} {position : Nat} {found : List Finding} {finding : Finding}

/-! ## Findings -/

/-- The path that the fixes for the singulars in a path rename it to. -/
def pluralTarget (facts : ReviewFacts) (path : String) : String :=
  renameFlagged path (flagged path (isSingularCollection facts path))
    (Segment.pluralize facts.vocabulary)

/-- A finding proposes to rename its path, and a plural for the segment at a position of it. -/
structure Finding.ProposesPlural (finding : Finding) (position : Nat)
    (segment plural newPath : String) : Prop where
  located : (Path.segments finding.path)[position]? = some segment
  suggestion : finding.suggestion? = some ("Rename to '" ++ plural ++ "'")
  fix : finding.fix? = some
    { kind := .renamePathSegment
      address := Address.ofPath finding.path
      target? := some (Members.ofFields
        [("segment", .str segment), ("segmentIndex", .int (Int.ofNat position))])
      replacement := .str plural
      changes := [⟨.renameKey, "$.paths", some finding.path, some newPath, .null⟩] }

theorem mem_lookForSingulars (among : finding ∈ lookForSingulars context path) :
    finding.path = path ∧ ∃ position segment,
      (position, segment) ∈ flagged path (isSingularCollection context.facts path) ∧
      finding.ProposesPlural position segment (Segment.pluralize context.facts.vocabulary segment)
        (pluralTarget context.facts path) := by
  obtain ⟨⟨position, segment⟩, listed, rfl⟩ := List.mem_map.mp among
  exact ⟨rfl, position, segment, listed, (mem_flagged.mp listed).1, rfl, rfl⟩

theorem pluralResources_findings
    (reported : pluralResources.findingsOn settings .standard spec = .ok found)
    (among : finding ∈ found) : ∃ facts, ReviewFacts.ofSpec spec settings .standard = .ok facts ∧
      ∃ position segment,
        (position, segment) ∈ flagged finding.path (isSingularCollection facts finding.path) ∧
        finding.ProposesPlural position segment (Segment.pluralize .standard segment)
          (pluralTarget facts finding.path) := by
  obtain ⟨facts, derived, ran⟩ := Rule.findingsOn_ok reported
  have standard : facts.vocabulary = .standard := ReviewFacts.vocabulary_ofSpec derived
  obtain ⟨element, visited, -, reports⟩ := Rule.mem_run ran among
  obtain ⟨⟨path, item⟩, -, shape⟩ := List.mem_map.mp visited
  cases shape
  refine ⟨facts, derived, ?_⟩
  cases reports with
  | looked looks inside =>
      cases looks
      obtain ⟨rfl, position, segment, listed, proposes⟩ := mem_lookForSingulars inside
      rw [standard] at proposes
      exact ⟨position, segment, listed, proposes⟩
  | failed looks _ => cases looks

/-! ## Plurals that settle the matter -/

theorem isSingular_of_flagged (standard : facts.vocabulary = .standard)
    (listed : (position, segment) ∈ flagged path (isSingularCollection facts path)) :
    Segment.isSingular .standard segment = true := by
  have singular := (mem_flagged.mp listed).2
  rw [isSingularCollection, Bool.and_eq_true, standard] at singular
  exact singular.2

theorem plural_shape (standard : facts.vocabulary = .standard)
    (listed : (position, segment) ∈ flagged path (isSingularCollection facts path)) :
    Segment.pluralize .standard segment ≠ "" ∧
      '/' ∉ (Segment.pluralize .standard segment).toList := by
  obtain ⟨filled, whole⟩ := segment_shape (List.mem_of_getElem? (mem_flagged.mp listed).1)
  exact ⟨Segment.pluralize_filled filled (isSingular_of_flagged standard listed),
    fun inside => whole (Segment.mem_of_mem_pluralize (by decide) inside)⟩

theorem segments_pluralTarget (standard : facts.vocabulary = .standard) :
    Path.segments (pluralTarget facts path) =
      renamedSegments path (isSingularCollection facts path) (Segment.pluralize .standard) := by
  rw [pluralTarget, standard]
  exact segments_renameFlagged_of_filled fun _ _ listed => plural_shape standard listed

/-- What a proposed plural is for: the segment and the path are other ones than before, and the new
segment is no singular, so that it is not reported in the new path whatever document that is in. -/
structure RenameHelps (path newPath segment plural : String) (position : Nat) : Prop where
  segment : plural ≠ segment
  path : newPath ≠ path
  singular : Segment.isSingular .standard plural = false
  quiet : ∀ later : ReviewFacts, later.vocabulary = .standard → ∀ other,
    (position, other) ∉ flagged newPath (isSingularCollection later newPath)

theorem renameHelps_iff {plural newPath : String}
    (singular : Segment.isSingular .standard segment = true)
    (before : (Path.segments path)[position]? = some segment)
    (after : (Path.segments newPath)[position]? = some plural) :
    RenameHelps path newPath segment plural position ↔
      Segment.isSingular .standard plural = false := by
  refine ⟨RenameHelps.singular, fun settled => ?_⟩
  have other : plural ≠ segment := by
    rintro rfl
    rw [singular] at settled
    cases settled
  refine ⟨other, ?_, settled, fun later standard name listed => ?_⟩
  · rintro rfl
    exact other (Option.some.inj (after.symm.trans before))
  · have here := (mem_flagged.mp listed).1
    have again := isSingular_of_flagged standard listed
    rw [after] at here
    rw [← Option.some.inj here, settled] at again
    cases again

/-- When a proposed plural helps. A finding proposes to put the plural of a segment in the place
where the segment stands in the path, and that settles the matter if and only if the segment has
words and the plural of its head word is no word that the singular leaves as it is. -/
theorem plural_rename_helps_iff
    (reported : pluralResources.findingsOn settings .standard spec = .ok found)
    (among : finding ∈ found) : ∃ position segment newPath,
      finding.ProposesPlural position segment (Segment.pluralize .standard segment) newPath ∧
      (Path.segments newPath)[position]? = some (Segment.pluralize .standard segment) ∧
      (RenameHelps finding.path newPath segment (Segment.pluralize .standard segment) position ↔
        Segment.words segment ≠ [] ∧ LowerWord.isSettled
          (LowerWord.pluralize (lower (Segment.lastWord segment))) = false) := by
  obtain ⟨facts, derived, position, segment, listed, proposes⟩ :=
    pluralResources_findings reported among
  have standard := ReviewFacts.vocabulary_ofSpec derived
  have before := mem_flagged.mp listed
  have singular := isSingular_of_flagged standard listed
  have after : (Path.segments (pluralTarget facts finding.path))[position]? =
      some (Segment.pluralize .standard segment) := by
    rw [segments_pluralTarget standard, renamedSegments, List.getElem?_mapIdx, before.1,
      Option.map_some, if_pos before.2]
  refine ⟨position, segment, _, proposes, after, ?_⟩
  rw [renameHelps_iff singular before.1 after, Segment.isSingular_pluralize singular,
    Bool.or_eq_false_iff, List.isEmpty_eq_false_iff]

/-! ## Reported segments -/

theorem run_pluralResources (facts : ReviewFacts) :
    ∃ found, pluralResources.run facts = .ok found := by
  have steps : ∀ visit ∈ facts.visits pluralResources.kind,
      ∃ found, pluralResources.visit facts visit = .ok found := by
    intro visit visited
    obtain ⟨⟨path, item⟩, -, rfl⟩ := List.mem_map.mp visited
    exact ⟨_, rfl⟩
  obtain ⟨groups, walked⟩ := mapM_ok_of_forall steps
  exact ⟨groups.flatten, by rw [Rule.run, walked]; rfl⟩

/-- Each flagged segment of a path of the document is reported. -/
theorem proposed_of_flagged (ran : pluralResources.run facts = .ok found) {item : Node}
    (visited : .ok (.path path item) ∈ facts.visits .path)
    (listed : (position, segment) ∈ flagged path (isSingularCollection facts path)) :
    ∃ finding ∈ found, finding.path = path ∧ finding.ProposesPlural position segment
      (Segment.pluralize facts.vocabulary segment) (pluralTarget facts path) := by
  have reported : lookForSingulars ⟨facts, pluralResources.toRuleHeader⟩ path ⊆ found :=
    Rule.run_mem ran visited rfl rfl
  refine ⟨_, reported (List.mem_map.mpr ⟨(position, segment), listed, rfl⟩), rfl, ?_⟩
  exact ⟨(mem_flagged.mp listed).1, rfl, rfl⟩

/-- A finding proposes one plural for one segment. -/
theorem Finding.ProposesPlural.unique {otherPosition : Nat}
    {plural newPath other otherPlural otherPath : String}
    (proposes : finding.ProposesPlural position segment plural newPath)
    (also : finding.ProposesPlural otherPosition other otherPlural otherPath) :
    position = otherPosition ∧ segment = other ∧ newPath = otherPath := by
  have same := proposes.fix.symm.trans also.fix
  simp only [Option.some.injEq, Fix.mk.injEq, Members.ofFields, List.map_cons, List.map_nil,
    List.cons.injEq, Prod.mk.injEq, Node.str.injEq, Node.int.injEq, Change.mk.injEq, true_and,
    and_true, Int.ofNat_eq_natCast, Int.natCast_inj] at same
  exact ⟨same.1.2, same.1.1, same.2.2⟩

/-- A singular with a plural of its own, one that is taken for a plural as it is, and one with a
placeholder in its name. -/
def singularNames : List String := ["key", "key-alias", "key.{Format}"]

def singularPaths : Members :=
  [(.str "paths", .object
    (singularNames.map fun name => (.str ("/" ++ name ++ "/{id}"), .object [])))]

theorem looksLikeVerb_singularNames : ∀ name ∈ singularNames,
    Segment.looksLikeVerb .standard name = false := by
  have others : ∀ name ∈ singularNames, (Segment.verbPrefix? name.toList).isSome = false ∧
      (WordShape.tag (lower name).toList).isVerb = false ∧
      ∀ verb ∈ Lexicon.actionVerbs, verb.toList.head? ≠ (lower name).toList.head? := by
    decide +kernel
  intro name among
  obtain ⟨noPrefix, shape, other⟩ := others name among
  have noVerb : Vocabulary.standard.isVerb name = false :=
    not_isVerb_of_other_start .path other shape
  rw [Segment.looksLikeVerb, noPrefix, noVerb]
  rfl

theorem singularPaths_reported : ∃ facts found,
    ReviewFacts.ofSpec (.object singularPaths) {} .standard = .ok facts ∧
    pluralResources.findingsOn {} .standard (.object singularPaths) = .ok found ∧
    ∀ name ∈ singularNames, ∃ finding ∈ found,
      Path.segments finding.path = [name, "{id}"] ∧
      (0, name) ∈ flagged finding.path (isSingularCollection facts finding.path) ∧
      finding.ProposesPlural 0 name (Segment.pluralize .standard name)
        (pluralTarget facts finding.path) := by
  have course : (ReviewFacts.ofSpec (.object singularPaths) {} .standard).toOption.any (fun facts =>
      singularNames.all fun name =>
        let path := "/" ++ name ++ "/{id}"
        Path.segments path == [name, "{id}"] && !isExempt facts path name &&
          !Path.isUnderSingleton facts.singletons (Path.parent path 1) &&
          !Vocabulary.standard.isUncountable (Segment.lastWord name) &&
          Segment.isSingular .standard name) = true := by decide +kernel
  obtain ⟨facts, derived, judged⟩ := ok_of_any course
  have standard := ReviewFacts.vocabulary_ofSpec derived
  obtain ⟨found, ran⟩ := run_pluralResources facts
  refine ⟨facts, found, derived, ?_, fun name among => ?_⟩
  · rw [Rule.findingsOn, derived]
    exact ran
  · have judged := List.all_eq_true.mp judged name among
    simp only [Bool.and_eq_true, beq_iff_eq] at judged
    obtain ⟨⟨⟨⟨segments, judgeable⟩, apart⟩, countable⟩, singular⟩ := judged
    have hit : isSingularCollection facts ("/" ++ name ++ "/{id}") 0 name = true := by
      rw [isSingularCollection, judgeable, apart, standard, countable, singular,
        looksLikeVerb_singularNames name among]
      rfl
    have listed : (0, name) ∈ flagged ("/" ++ name ++ "/{id}")
        (isSingularCollection facts ("/" ++ name ++ "/{id}")) :=
      mem_flagged.mpr ⟨by rw [segments]; rfl, hit⟩
    have rooted : singularPaths = facts.spec := Node.object.inj (ReviewFacts.ofSpec_ok derived).1
    have paths : facts.paths = singularNames.map fun name => ("/" ++ name ++ "/{id}", .object []) := by
      rw [ReviewFacts.paths, ← rooted]
      rfl
    have visited : .ok (.path ("/" ++ name ++ "/{id}") (.object [])) ∈ facts.visits .path := by
      refine List.mem_map.mpr ⟨("/" ++ name ++ "/{id}", .object []), List.mem_filter.mpr ⟨?_, rfl⟩, rfl⟩
      exact paths ▸ List.mem_map.mpr ⟨name, among, rfl⟩
    obtain ⟨finding, reported, about, proposes⟩ := proposed_of_flagged ran visited listed
    rw [standard, ← about] at proposes
    rw [← about] at segments listed
    exact ⟨finding, reported, segments, listed, proposes⟩

theorem plural_rename_helps_iff_alias : ∃ found key other,
    pluralResources.findingsOn {} .standard (.object singularPaths) = .ok found ∧
    key ∈ found ∧ other ∈ found ∧
    (∃ newPath, key.ProposesPlural 0 "key" "keys" newPath ∧
      RenameHelps key.path newPath "key" "keys" 0) ∧
    (∃ newPath, other.ProposesPlural 0 "key-alias" "key-alias" newPath ∧
      ¬ RenameHelps other.path newPath "key-alias" "key-alias" 0) := by
  obtain ⟨facts, found, -, reported, proposals⟩ := singularPaths_reported
  have words : Segment.pluralize .standard "key" = "keys" ∧
      Segment.pluralize .standard "key-alias" = "key-alias" ∧ Segment.words "key" ≠ [] ∧
      LowerWord.isSettled (LowerWord.pluralize (lower (Segment.lastWord "key"))) = false ∧
      LowerWord.isSettled (LowerWord.pluralize (lower (Segment.lastWord "key-alias"))) = true := by
    decide +kernel
  obtain ⟨keys, same, some_word, unsettled, settled⟩ := words
  obtain ⟨key, keyFound, -, -, keyProposes⟩ := proposals "key" (by decide)
  obtain ⟨other, otherFound, -, -, otherProposes⟩ := proposals "key-alias" (by decide)
  refine ⟨found, key, other, reported, keyFound, otherFound, ?_, ?_⟩
  · obtain ⟨position, segment, newPath, proposes, -, helps⟩ :=
      plural_rename_helps_iff reported keyFound
    obtain ⟨rfl, rfl, -⟩ := keyProposes.unique proposes
    rw [keys] at proposes helps
    exact ⟨newPath, proposes, helps.mpr ⟨some_word, unsettled⟩⟩
  · obtain ⟨position, segment, newPath, proposes, -, helps⟩ :=
      plural_rename_helps_iff reported otherFound
    obtain ⟨rfl, rfl, -⟩ := otherProposes.unique proposes
    rw [same] at proposes helps
    refine ⟨newPath, proposes, fun helped => ?_⟩
    have clash := (helps.mp helped).2
    rw [settled] at clash
    cases clash

end ApiReview
