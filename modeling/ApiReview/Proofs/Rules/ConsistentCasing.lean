import ApiReview.Proofs.Fix.RenamedPaths
import ApiReview.Proofs.Rules.FlaggedSegments
import ApiReview.Proofs.Rules.StyleTally
import ApiReview.Review

/-! Casing that is made consistent. The fixes of the findings about one path all
rename it to the same path, in which every segment has the dominant style or no
marks; the first of them makes the renames and the others find it made. So the
tally of the repaired document knows one style at most. -/

set_option autoImplicit false

namespace ApiReview

open ApiReview.Text ApiReview.Rules

/-! ## Renamed paths -/

/-- The flagged segments of a path are replaced, and the others stay. -/
theorem renameFlagged_flagged (path : String) (test : String → Bool) (rename : String → String) :
    renameFlagged path (flagged path fun _ segment => test segment) rename =
      Path.ofSegments ((Path.segments path).map fun segment =>
        if test segment then rename segment else segment) := by
  rw [renameFlagged_eq, renamedSegments]
  congr 1
  refine List.ext_getElem? fun position => ?_
  rw [List.getElem?_mapIdx, List.getElem?_map]

/-- The path that a path is renamed to so that its segments have the dominant style. -/
def casingTarget (dominant : CasingStyle) (path : String) : String :=
  renameFlagged path (flagged path fun _ segment => hasOtherStyle dominant segment) fun segment =>
    Segment.convert segment dominant

theorem style_of_not_hasOtherStyle {dominant : CasingStyle} {segment : String}
    (settled : hasOtherStyle dominant segment = false)
    (judged : !Segment.isParameter segment && !Segment.hasMethodSuffix segment) :
    Segment.style segment = dominant ∨ Segment.style segment = .lower := by
  rw [hasOtherStyle, judged, Bool.true_and, Bool.and_eq_false_iff] at settled
  rcases settled with plain | same
  · exact .inr (by simpa using plain)
  · exact .inl (by simpa using same)

/-- In a path renamed for its casing all segments have the dominant style or no marks. -/
theorem style_casingTarget {dominant : CasingStyle} {path segment : String}
    (marked : dominant ≠ .lower) (ascii : isAscii path = true)
    (among : segment ∈ Path.resources (casingTarget dominant path)) :
    Segment.style segment = dominant ∨ Segment.style segment = .lower := by
  obtain ⟨inside, judged⟩ := List.mem_filter.mp among
  have converted (original : String) (held : original ∈ Path.segments path) :=
    have shape := Path.segment_of_ascii ascii held
    Segment.style_convert marked shape.1 shape.2
  rw [casingTarget, renameFlagged_flagged, Path.segments_ofSegments] at inside
  · obtain ⟨original, held, rfl⟩ := List.mem_map.mp (List.mem_filter.mp inside).1
    split
    · exact (converted original held).1
    · rename_i settled
      rw [if_neg settled] at judged
      exact style_of_not_hasOtherStyle (Bool.not_eq_true _ ▸ settled) judged
  · intro part listed
    obtain ⟨original, held, rfl⟩ := List.mem_map.mp listed
    split
    · exact (converted original held).2
    · exact (Path.segment_of_ascii ascii held).2

/-! ## Findings -/

theorem isRenaming_of_mem {context : RuleContext} {dominant : CasingStyle} {path : String}
    {finding : Finding} (among : finding ∈ lookForOtherStyles context dominant path) :
    finding.path = path ∧ ∃ fix, IsRenaming (casingTarget dominant) finding fix := by
  obtain ⟨⟨position, segment⟩, -, rfl⟩ := List.mem_map.mp among
  exact ⟨rfl, _, rfl, rfl⟩

theorem settled_of_quiet {context : RuleContext} {dominant : CasingStyle} {path segment : String}
    (quiet : lookForOtherStyles context dominant path = [])
    (among : segment ∈ Path.segments path) : hasOtherStyle dominant segment = false := by
  rw [lookForOtherStyles, List.map_eq_nil_iff, flagged, List.filterMap_eq_nil_iff] at quiet
  obtain ⟨index, found⟩ := List.mem_iff_getElem?.mp among
  have settled := quiet (segment, index) (List.mem_zipIdx_iff_getElem?.mpr found)
  rw [ite_eq_right_iff] at settled
  exact Bool.not_eq_true _ ▸ fun hit => Option.some_ne_none _ (settled hit)

/-! ## Consistent documents -/

def pathTexts (spec : Members) : List String := (pathItems spec).map fun (key, _) => key.display

def casingFindings (facts : ReviewFacts) : Option CasingStyle → List Finding
  | none => []
  | some dominant => (pathTexts facts.spec).flatMap
    (lookForOtherStyles ⟨facts, consistentCasing.toRuleHeader⟩ dominant)

theorem run_consistentCasing (facts : ReviewFacts) : consistentCasing.run facts =
    .ok (if (styleCounts (pathTexts facts.spec)).length < 2 then []
      else casingFindings facts (mostCommon? (styleCounts (pathTexts facts.spec)))) := by
  have looked : lookForMixedStyles ⟨facts, consistentCasing.toRuleHeader⟩ =
      if (styleCounts (pathTexts facts.spec)).length < 2 then []
      else casingFindings facts (mostCommon? (styleCounts (pathTexts facts.spec))) := by
    rw [lookForMixedStyles]
    change (if (styleCounts (pathTexts facts.spec)).length < 2 then [] else _) = _
    congr 1
  rw [← looked]
  simp [Rule.run, ReviewFacts.visits, Rule.kind, consistentCasing, Check.kind, Rule.visit, Rule.covers,
    Rule.guarded, Rule.look, bind, Except.bind, pure, Except.pure]

theorem consistentCasing_quiet {facts : ReviewFacts}
    (few : (styleCounts (pathTexts facts.spec)).length < 2) : consistentCasing.run facts = .ok [] := by
  rw [run_consistentCasing, if_pos few]

/-- Reported are, if anything, the segments out of a style that has marks. -/
theorem consistentCasing_cases {facts : ReviewFacts} {found : List Finding}
    (reported : consistentCasing.run facts = .ok found) :
    (found = [] ∧ (styleCounts (pathTexts facts.spec)).length < 2) ∨
    ∃ dominant, dominant ≠ .lower ∧ found = casingFindings facts (some dominant) := by
  rw [run_consistentCasing, Except.ok.injEq] at reported
  split at reported
  · rename_i few
    exact .inl ⟨reported.symm, few⟩
  · rename_i many
    cases common : mostCommon? (styleCounts (pathTexts facts.spec)) with
    | none =>
        cases counts : styleCounts (pathTexts facts.spec) with
        | nil => exact absurd (counts ▸ Nat.two_pos) many
        | cons first rest =>
            rw [counts] at common
            cases common
    | some dominant =>
        obtain ⟨entry, counted, rfl, -⟩ := mostCommon?_spec common
        rw [common] at reported
        exact .inr ⟨entry.1, marked_of_mem_styleCounts counted, reported.symm⟩

section Consistent

variable {facts : ReviewFacts} {dominant : CasingStyle}

theorem isRenaming_of_mem_casingFindings {finding : Finding}
    (among : finding ∈ casingFindings facts (some dominant)) :
    finding.path ∈ pathTexts facts.spec ∧
      ∃ fix, IsRenaming (casingTarget dominant) finding fix := by
  obtain ⟨path, listed, inside⟩ := List.mem_flatMap.mp among
  obtain ⟨rfl, renames⟩ := isRenaming_of_mem inside
  exact ⟨listed, renames⟩

theorem newPathOf_casingFindings {path : String}
    (about : path ∈ (casingFindings facts (some dominant)).map (·.path)) :
    newPathOf (casingFindings facts (some dominant)) path = casingTarget dominant path :=
  newPathOf_of_mem (fun _ among => (isRenaming_of_mem_casingFindings among).2) about

theorem style_newPathOf (marked : dominant ≠ .lower) {path segment : String}
    (ascii : isAscii path = true) (listed : path ∈ pathTexts facts.spec)
    (among : segment ∈ Path.resources (newPathOf (casingFindings facts (some dominant)) path)) :
    Segment.style segment = dominant ∨ Segment.style segment = .lower := by
  by_cases about : path ∈ (casingFindings facts (some dominant)).map (·.path)
  · rw [newPathOf_casingFindings about] at among
    exact style_casingTarget marked ascii among
  · rw [newPathOf_of_not_mem about] at among
    obtain ⟨inside, judged⟩ := List.mem_filter.mp among
    have quiet : lookForOtherStyles ⟨facts, consistentCasing.toRuleHeader⟩ dominant path = [] := by
      refine List.eq_nil_iff_forall_not_mem.mpr fun finding reported => about ?_
      have same := (isRenaming_of_mem reported).1
      exact List.mem_map.mpr ⟨finding, List.mem_flatMap.mpr ⟨path, listed, reported⟩, same⟩
    exact style_of_not_hasOtherStyle (settled_of_quiet quiet inside) judged

end Consistent

/-- What the fixes for the casing of a document leave of it: all of them were applied, the paths
keep their number and order and what is under them, nothing else changed, and the rule reports
nothing any more. -/
structure IsCasingRepaired (spec : Members) (found : List Finding) (outcomes : List FixOutcome)
    (root : Members) : Prop where
  complete : outcomes.length = found.length
  applied : ∀ outcome ∈ outcomes, outcome.applied = true
  paths : pathItems root = (pathItems spec).map fun (key, value) =>
    (.str (newPathOf found key.display), value)
  rest : ∀ name, name ≠ "paths" → Members.get? root name = Members.get? spec name
  quiet : ∀ later : ReviewFacts, later.spec = root → consistentCasing.run later = .ok []

theorem pathTexts_eq_of_paths {spec root : Members} {found : List Finding}
    (paths : pathItems root = (pathItems spec).map fun (key, value) =>
      (.str (newPathOf found key.display), value)) :
    pathTexts root = (pathTexts spec).map (newPathOf found) := by
  simp only [pathTexts, paths, List.map_map, Function.comp_def]
  rfl

section Repaired

variable {facts : ReviewFacts} {found : List Finding} {dominant : CasingStyle}
  (ascii : ∀ key ∈ Members.keys (pathItems facts.spec),
    ∃ path, key = .str path ∧ isAscii path = true)

include ascii

theorem ascii_of_mem_pathTexts {path : String} (listed : path ∈ pathTexts facts.spec) :
    isAscii path = true ∧ Key.str path ∈ Members.keys (pathItems facts.spec) := by
  obtain ⟨⟨key, value⟩, among, rfl⟩ := List.mem_map.mp listed
  obtain ⟨path, rfl, plain⟩ := ascii key (Members.mem_keys_of_mem among)
  exact ⟨plain, Members.mem_keys_of_mem among⟩

theorem isCasingRepaired_nil (few : (styleCounts (pathTexts facts.spec)).length < 2) :
    IsCasingRepaired facts.spec [] [] facts.spec := by
  refine ⟨rfl, by simp, ?_, fun _ _ => rfl, fun later same => consistentCasing_quiet (same ▸ few)⟩
  refine ((List.map_congr_left fun member among => ?_).trans (List.map_id _)).symm
  obtain ⟨key, value⟩ := member
  obtain ⟨path, rfl, -⟩ := ascii key (Members.mem_keys_of_mem among)
  rfl

/-- The keys that the findings move are those whose path they rename. -/
theorem moved_casingFindings :
    Members.moved (casingTarget dominant)
        ((casingFindings facts (some dominant)).map (·.path)).reverse (pathItems facts.spec) =
      (pathItems facts.spec).map fun (key, value) =>
        (.str (newPathOf (casingFindings facts (some dominant)) key.display), value) := by
  refine List.map_congr_left fun member among => ?_
  obtain ⟨path, named, -⟩ := ascii member.1 (List.mem_map_of_mem among)
  refine Prod.ext ?_ rfl
  simp only [named, Key.moved, Key.display, List.mem_reverse, Key.str.injEq]
  split
  · rename_i about
    exact (newPathOf_casingFindings about).symm
  · rename_i quiet
    exact (newPathOf_of_not_mem quiet).symm

/-- In a document whose paths are named by the fixes, nothing is found any more. -/
theorem quiet_of_paths (marked : dominant ≠ .lower) {root : Members}
    (paths : pathItems root = (pathItems facts.spec).map fun (key, value) =>
      (.str (newPathOf (casingFindings facts (some dominant)) key.display), value)) :
    (styleCounts (pathTexts root)).length < 2 := by
  rw [pathTexts_eq_of_paths paths]
  have uniform : ∀ path ∈ (pathTexts facts.spec).map (newPathOf (casingFindings facts dominant)),
      ∀ segment ∈ Path.resources path,
        Segment.style segment = dominant ∨ Segment.style segment = .lower := by
    intro path listed segment among
    obtain ⟨original, here, rfl⟩ := List.mem_map.mp listed
    exact style_newPathOf marked (ascii_of_mem_pathTexts ascii here).1 here among
  exact length_styleCounts uniform

end Repaired

theorem areRenamable_casingFindings {facts : ReviewFacts} {dominant : CasingStyle}
    {found : List Finding} (reported : found = casingFindings facts (some dominant))
    (ascii : ∀ key ∈ Members.keys (pathItems facts.spec),
      ∃ path, key = .str path ∧ isAscii path = true)
    (apart : ∀ first ∈ found, ∀ second ∈ found,
      newPathOf found first.path = newPathOf found second.path → first.path = second.path)
    (fresh : ∀ finding ∈ found,
      Key.str (newPathOf found finding.path) ∉ Members.keys (pathItems facts.spec)) :
    AreRenamable (casingTarget dominant) (found.map (·.path)) (pathItems facts.spec) := by
  have target (finding) (among : finding ∈ found) :
      newPathOf found finding.path = casingTarget dominant finding.path := by
    subst reported
    exact newPathOf_casingFindings (List.mem_map_of_mem among)
  refine ⟨?_, ?_, ?_⟩
  · intro path listed
    obtain ⟨finding, among, rfl⟩ := List.mem_map.mp listed
    have here := (isRenaming_of_mem_casingFindings (reported ▸ among)).1
    exact (ascii_of_mem_pathTexts ascii here).2
  · intro path listed other second
    obtain ⟨finding, among, rfl⟩ := List.mem_map.mp listed
    obtain ⟨beside, present, rfl⟩ := List.mem_map.mp second
    rw [← target finding among, ← target beside present]
    exact apart finding among beside present
  · intro path listed
    obtain ⟨finding, among, rfl⟩ := List.mem_map.mp listed
    rw [← target finding among]
    exact fresh finding among

/-- The fixes for consistent casing make the casing consistent. All paths of a document are ASCII
texts; the paths that the fixes rename those with findings to are different from each other, and
none of them is there before. Then every fix is applied, the paths keep their number and order and
what is under them, nothing else changes, and the rule reports nothing any more. -/
theorem casing_becomes_consistent {facts : ReviewFacts} {found : List Finding}
    (ascii : ∀ key ∈ Members.keys (pathItems facts.spec),
      ∃ path, key = .str path ∧ isAscii path = true)
    (reported : consistentCasing.run facts = .ok found)
    (apart : ∀ first ∈ found, ∀ second ∈ found,
      newPathOf found first.path = newPathOf found second.path → first.path = second.path)
    (fresh : ∀ finding ∈ found,
      Key.str (newPathOf found finding.path) ∉ Members.keys (pathItems facts.spec))
    (log : List FixOutcome) :
    (∀ finding ∈ found, finding.newPath? = some (newPathOf found finding.path)) ∧
    ∃ after outcomes root,
      PatchSession.applyFindings ⟨Node.object facts.spec, log⟩ found = .ok (after, outcomes) ∧
      after.document = .object root ∧ IsCasingRepaired facts.spec found outcomes root := by
  rcases consistentCasing_cases reported with ⟨rfl, few⟩ | ⟨dominant, marked, shape⟩
  · exact ⟨by simp, _, _, facts.spec, rfl, rfl, isCasingRepaired_nil ascii few⟩
  · have renamable := areRenamable_casingFindings shape ascii apart fresh
    have renamings (finding) (among : finding ∈ found) :=
      isRenaming_of_mem_casingFindings (shape ▸ among)
    refine ⟨fun finding among => ?_, ?_⟩
    · obtain ⟨-, fix, carried, made⟩ := renamings finding among
      rw [Finding.newPath?, carried, Option.bind_some, made, shape,
        newPathOf_casingFindings (shape ▸ List.mem_map_of_mem among)]
      rfl
    · by_cases empty : pathItems facts.spec = []
      · have few : (styleCounts (pathTexts facts.spec)).length < 2 := by
          rw [pathTexts, empty]
          decide
        have quiet : found = [] := by
          rw [shape, casingFindings, pathTexts, empty]
          rfl
        rw [quiet]
        exact ⟨_, _, facts.spec, rfl, rfl, isCasingRepaired_nil ascii few⟩
      · obtain ⟨after, outcomes, ran, complete, applied, document⟩ :=
          renamable.applyFindings (fun finding among => List.mem_map_of_mem among)
            (fun finding among => (renamings finding among).2) (List.nil_subset _) facts.spec log
        rw [Members.moved_nil, ← eq_withPaths empty] at ran
        rw [List.append_nil, shape, moved_casingFindings ascii] at document
        have paths := pathItems_put facts.spec ((pathItems facts.spec).map fun (key, value) =>
          (.str (newPathOf (casingFindings facts (some dominant)) key.display), value))
        refine ⟨after, outcomes, _, ran, document, complete, applied, ?_, ?_, ?_⟩
        · rw [shape]
          exact paths
        · exact fun name other => Members.get?_put_ne other
        · exact fun later same => consistentCasing_quiet (same ▸ quiet_of_paths ascii marked paths)

/-- Paths in camel case but for one, whose middle segment has no words. -/
def mixedPaths : Members :=
  [(.str "paths", .object
    [(.str "/userProfiles/orderItems", .object []),
     (.str "/billing_accounts/-/line_items", .object [(.str "get", .object [])]),
     (.str "/auditLogs", .object [])])]

theorem casing_becomes_consistent_mixed :
    ∃ found after outcomes root,
      consistentCasing.run ⟨mixedPaths, {}, .standard, [], []⟩ = .ok found ∧
      found.map (·.path) = List.replicate 3 "/billing_accounts/-/line_items" ∧
      PatchSession.applyFindings ⟨Node.object mixedPaths, []⟩ found = .ok (after, outcomes) ∧
      after.document = .object root ∧
      pathTexts root = ["/userProfiles/orderItems", "/billingAccounts//lineItems", "/auditLogs"] ∧
      IsCasingRepaired mixedPaths found outcomes root := by
  have course : (consistentCasing.run ⟨mixedPaths, {}, .standard, [], []⟩).toOption.any (fun found =>
      found.map (·.path) == List.replicate 3 "/billing_accounts/-/line_items" &&
      (pathTexts mixedPaths).map (newPathOf found) ==
        ["/userProfiles/orderItems", "/billingAccounts//lineItems", "/auditLogs"] &&
      decide (∀ finding ∈ found,
        Key.str (newPathOf found finding.path) ∉ Members.keys (pathItems mixedPaths))) = true := by
    decide +kernel
  obtain ⟨found, reported, course⟩ := ok_of_any course
  simp only [Bool.and_eq_true, beq_iff_eq, decide_eq_true_eq] at course
  obtain ⟨⟨about, renamed⟩, fresh⟩ := course
  have single (finding) (among : finding ∈ found) :
      finding.path = "/billing_accounts/-/line_items" :=
    List.eq_of_mem_replicate (about ▸ List.mem_map_of_mem among)
  have ascii : ∀ key ∈ Members.keys (pathItems mixedPaths),
      ∃ path, key = .str path ∧ isAscii path = true := by
    intro key among
    have listed : key ∈ [Key.str "/userProfiles/orderItems",
      .str "/billing_accounts/-/line_items", .str "/auditLogs"] := among
    simp only [List.mem_cons, List.not_mem_nil, or_false] at listed
    rcases listed with rfl | rfl | rfl <;> exact ⟨_, rfl, by decide +kernel⟩
  obtain ⟨-, after, outcomes, root, ran, document, repaired⟩ :=
    casing_becomes_consistent ascii reported
      (fun first here second there _ => (single first here).trans (single second there).symm)
      fresh []
  exact ⟨found, after, outcomes, root, reported, about, ran, document,
    (pathTexts_eq_of_paths repaired.paths).trans renamed, repaired⟩

end ApiReview
