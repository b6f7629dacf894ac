import ApiReview.Proofs.Path.Singletons
import ApiReview.Proofs.Rules.Findings
import ApiReview.Proofs.Rules.FlaggedSegments

/-! Verbs that stand as segments of their own. The rule on verbs spares one that acts on
a resource, which is one behind a singleton or a parameter. What it looks at is the
last place in the path where the verb stands, so that all places are judged alike. -/

set_option autoImplicit false

namespace ApiReview

open ApiReview.Text ApiReview.Rules

variable {settings : Settings} {spec : Node} {facts : ReviewFacts} {context : RuleContext}
  {path segment : String} {position : Nat} {declared : List String}

/-- The positions at which a segment stands in a path. -/
def Path.places (path segment : String) : List Nat :=
  (flagged path fun _ other => other == segment).map (·.1)

/-- Whether what stands behind a path acts on a resource: a singleton, or one that a parameter
selects. -/
def Path.takesActions (singletons : List String) (parent : String) : Bool :=
  singletons.contains parent || Path.hasPlaceholder parent

/-- A segment that is nothing but the verb of a custom method, and that no setting exempts. -/
structure Segment.IsBareVerb (settings : Settings) (segment : String) : Prop where
  listed : lower segment ∈ customMethodVerbs
  judged : lower segment ∉ settings.singletonEndpoints
  verbLike : looksLikeVerb .standard segment = true

/-- The segment that a finding says it is about. -/
def Finding.segment? (finding : Finding) : Option String :=
  (finding.context?.bind fun context => Members.get? context "segment").bind Node.text?

/-- Whether the rule on verbs reports a segment of a path. -/
def reportsVerb (facts : ReviewFacts) (path segment : String) : Bool :=
  (!Segment.isParameter segment && !Segment.hasMethodSuffix segment) &&
    (!isExempt facts path segment && Segment.looksLikeVerb facts.vocabulary segment)

def countAbout (found : List Finding) (path segment : String) : Nat :=
  found.countP fun finding => finding.path == path && finding.segment? == some segment

/-! ## Places -/

theorem map_snd_flagged (path : String) (test : String → Bool) :
    (flagged path fun _ segment => test segment).map (·.2) = (Path.segments path).filter test := by
  have walk (segments : List String) (start : Nat) :
      ((segments.zipIdx start).filterMap fun entry =>
        if test entry.1 then some (entry.2, entry.1) else none).map (·.2) =
      segments.filter test := by
    induction segments generalizing start with
    | nil => rfl
    | cons first rest ih =>
        have behind := ih (start + 1)
        cases kept : test first with
        | true => simpa [List.zipIdx_cons, kept] using behind
        | false => simpa [List.zipIdx_cons, kept] using behind
  exact walk _ 0

theorem Path.mem_places : position ∈ places path segment ↔
    (segments path)[position]? = some segment := by
  rw [places, List.mem_map]
  constructor
  · rintro ⟨⟨index, other⟩, listed, rfl⟩
    obtain ⟨here, same⟩ := mem_flagged.mp listed
    rw [here, eq_of_beq same]
  · intro here
    exact ⟨(position, segment), mem_flagged.mpr ⟨here, beq_self_eq_true segment⟩, rfl⟩

theorem Path.length_places (path segment : String) :
    (places path segment).length = (segments path).count segment := by
  have filtered := congrArg List.length (map_snd_flagged path (· == segment))
  rw [List.length_map] at filtered
  rw [places, List.length_map, filtered, List.count, List.countP_eq_length_filter]

theorem Segment.lastPosition_spec (stands : segment ∈ Path.segments path) :
    lastPosition segment (Path.segments path) ∈ Path.places path segment ∧
      ∀ position ∈ Path.places path segment,
        position ≤ lastPosition segment (Path.segments path) := by
  let positions := (List.range (Path.segments path).length).filter fun position =>
    (Path.segments path)[position]? == some segment
  have mem_positions (position : Nat) : position ∈ positions ↔ position ∈ Path.places path segment := by
    rw [Path.mem_places, List.mem_filter, List.mem_range, beq_iff_eq]
    constructor
    · exact And.right
    · intro here
      exact ⟨(List.getElem?_eq_some_iff.mp here).1, here⟩
  have some_position : positions ≠ [] := by
    obtain ⟨position, here⟩ := List.mem_iff_getElem?.mp stands
    exact List.ne_nil_of_mem ((mem_positions position).mpr (Path.mem_places.mpr here))
  obtain ⟨front, last, split⟩ := (List.eq_nil_or_concat positions).resolve_left some_position
  have read : lastPosition segment (Path.segments path) = last := by
    change positions.getLast?.getD _ = last
    rw [split, List.concat_eq_append, List.getLast?_concat, Option.getD_some]
  rw [List.concat_eq_append] at split
  have ordered : positions.Pairwise (· < ·) := List.pairwise_lt_range.filter _
  rw [split, List.pairwise_append] at ordered
  rw [read]
  constructor
  · exact (mem_positions last).mp (split ▸ by simp)
  · intro position among
    have inside := (mem_positions position).mpr among
    rw [split] at inside
    rcases List.mem_append.mp inside with before | here
    · exact (ordered.2.2 position before last (List.mem_singleton.mpr rfl)).le
    · exact (List.mem_singleton.mp here).le

/-! ## Bare verbs -/

theorem Text.mem_lower {c : Char} {text : String} (own : Letter.lower c = [c])
    (noSigma : c.toNat ≠ 0x3A3) (among : c ∈ text.toList) : c ∈ (lower text).toList := by
  have walk (before rest : List Char) (inside : c ∈ rest) : c ∈ lowerAfter before rest := by
    induction rest generalizing before with
    | nil => cases inside
    | cons first rest ih =>
        rw [lowerAfter, List.mem_append]
        rcases List.mem_cons.mp inside with rfl | behind
        · left
          simp [noSigma, own]
        · exact .inr (ih _ behind)
  rw [lower, String.toList_ofList]
  exact walk [] _ among

namespace Segment

/-- The listed verbs hold no sign that marks a segment, and none of them reads as a version. -/
theorem plain_customMethodVerbs : ∀ verb ∈ customMethodVerbs,
    ':' ∉ verb.toList ∧ '\x7b' ∉ verb.toList ∧ '-' ∉ verb.toList ∧
      (atLineEnd isVersionNumber verb.toList || atLineEnd (· == "api".toList) verb.toList) = false := by
  decide +kernel

theorem IsBareVerb.isResource (bare : IsBareVerb settings segment) :
    isParameter segment = false ∧ hasMethodSuffix segment = false := by
  obtain ⟨noColon, noBrace, -, -⟩ := plain_customMethodVerbs _ bare.listed
  constructor
  · rw [Bool.eq_false_iff]
    intro parameter
    obtain ⟨rest, split⟩ := List.isPrefixOf_iff_prefix.mp parameter
    refine noBrace (mem_lower (by decide) (by decide) ?_)
    rw [← split]
    exact List.mem_cons_self
  · rw [Bool.eq_false_iff]
    intro suffix
    exact noColon (mem_lower (by decide) (by decide) (by simpa [hasMethodSuffix, hasChar] using suffix))

theorem IsBareVerb.isExempt_eq (bare : IsBareVerb facts.settings segment) :
    isExempt facts path segment = Path.takesActions facts.singletons
      (Path.parent path (lastPosition segment (Path.segments path))) := by
  obtain ⟨-, -, noHyphen, noVersion⟩ := plain_customMethodVerbs _ bare.listed
  obtain ⟨noParameter, noSuffix⟩ := bare.isResource
  have version : isVersion segment = false := by
    rw [lower, String.toList_ofList] at noVersion
    exact noVersion
  have endpoint : facts.settings.singletonEndpoints.contains (lower segment) = false := by
    simpa using bare.judged
  have whole : hasChar (lower segment) '-' = false := by simpa [hasChar] using noHyphen
  have listed : customMethodVerbs.contains (lower segment) = true := by simpa using bare.listed
  simp only [isExempt, isCustomMethod, noParameter, noSuffix, version, endpoint, whole, listed,
    Bool.or_self, Bool.false_or, Bool.false_and, Bool.false_eq_true, if_false, if_true]
  rfl

theorem IsBareVerb.reportsVerb_eq (bare : IsBareVerb facts.settings segment)
    (standard : facts.vocabulary = .standard) :
    reportsVerb facts path segment = !Path.takesActions facts.singletons
      (Path.parent path (lastPosition segment (Path.segments path))) := by
  obtain ⟨noParameter, noSuffix⟩ := bare.isResource
  rw [reportsVerb, noParameter, noSuffix, bare.isExempt_eq, standard, bare.verbLike]
  simp

end Segment

/-! ## Findings -/

theorem map_segment_lookForVerbs (context : RuleContext) (path : String) :
    (lookForVerbs context path).map Finding.segment? =
      ((Path.segments path).filter (reportsVerb context.facts path)).map some := by
  rw [lookForVerbs, List.map_map, Path.resources, List.filter_filter]
  congr 1
  refine List.filter_congr fun segment _ => ?_
  rw [reportsVerb, Bool.and_comm]

theorem path_of_mem_lookForVerbs {finding : Finding} (among : finding ∈ lookForVerbs context path) :
    finding.path = path := by
  obtain ⟨segment, -, rfl⟩ := List.mem_map.mp among
  rfl

theorem run_noVerbs (facts : ReviewFacts) : noVerbs.run facts =
    .ok ((facts.paths.filter fun (entry : String × Node) => entry.2.isObject).flatMap fun (path, _) =>
      lookForVerbs ⟨facts, noVerbs.toRuleHeader⟩ path) := by
  have walk (entries : List (String × Node)) :
      (entries.map fun (path, item) => (.ok (.path path item) : Visit)).mapM (noVerbs.visit facts) =
        .ok (entries.map fun (path, _) => lookForVerbs ⟨facts, noVerbs.toRuleHeader⟩ path) := by
    induction entries with
    | nil => rfl
    | cons first rest ih =>
        rw [List.map_cons, List.mapM_cons, ih]
        rfl
  change (do
    let findings ← ((facts.paths.filter fun (entry : String × Node) => entry.2.isObject).map fun (path, item) =>
      (.ok (.path path item) : Visit)).mapM (noVerbs.visit facts)
    .ok findings.flatten) = _
  rw [walk, List.flatMap]
  rfl

/-- Where paths are distinct, the findings about one of them are those of one look. -/
theorem filter_reports {entries : List (String × Node)} {item : Node} {report : String → List Finding}
    (about : ∀ path, ∀ finding ∈ report path, finding.path = path)
    (distinct : (entries.map (·.1)).Nodup) (held : (path, item) ∈ entries) :
    (entries.flatMap fun (path, _) => report path).filter (·.path == path) = report path := by
  have apart (others : List (String × Node)) (missing : path ∉ others.map (·.1)) :
      (others.flatMap fun (path, _) => report path).filter (·.path == path) = [] := by
    rw [List.filter_eq_nil_iff]
    intro finding among
    obtain ⟨⟨other, node⟩, listed, inside⟩ := List.mem_flatMap.mp among
    rw [about other finding inside, beq_iff_eq]
    rintro rfl
    exact missing (List.mem_map_of_mem listed)
  obtain ⟨front, back, rfl⟩ := List.append_of_mem held
  rw [List.map_append, List.map_cons, List.nodup_append, List.nodup_cons] at distinct
  obtain ⟨-, ⟨notBehind, -⟩, apartFront⟩ := distinct
  have notBefore : path ∉ front.map (·.1) := fun before =>
    apartFront path before path List.mem_cons_self rfl
  have own : (report path).filter (·.path == path) = report path := by
    rw [List.filter_eq_self]
    intro finding inside
    rw [about path finding inside, beq_self_eq_true]
  rw [List.flatMap_append, List.flatMap_cons, List.filter_append, List.filter_append,
    apart front notBefore, apart back notBehind, own, List.nil_append, List.append_nil]

theorem Node.DeclaresPaths.keys_pathItems {root : Members}
    (declares : (Node.object root).DeclaresPaths declared) :
    Members.keys (pathItems root) = declared.map Key.str := by
  obtain ⟨members, paths, shape, held, keyed⟩ := declares
  cases shape
  rw [← keyed, pathItems]
  cases read : Members.get? root "paths" with
  | none =>
      rw [read] at held
      cases held
      rfl
  | some node =>
      rw [read, Node.optional, Option.getD_some, Node.orEmpty] at held
      split at held
      · rw [held]
        rfl
      · cases held
        cases node with
        | object members =>
            cases members with
            | nil => rfl
            | cons first rest => simp_all [Node.isFilled]
        | _ => rfl

theorem Node.DeclaresPaths.keys_paths {vocabulary : Vocabulary} (declares : spec.DeclaresPaths declared)
    (derived : ReviewFacts.ofSpec spec settings vocabulary = .ok facts) :
    facts.paths.map (·.1) = declared := by
  rw [(ReviewFacts.ofSpec_ok derived).1] at declares
  have keyed := congrArg (List.map Key.display) declares.keys_pathItems
  rw [Members.keys, List.map_map, List.map_map] at keyed
  rw [ReviewFacts.paths, List.map_map]
  exact keyed.trans (List.map_id declared)

theorem ReviewFacts.singletons_ofSpec {vocabulary : Vocabulary}
    (derived : ofSpec spec settings vocabulary = .ok facts) :
    spec.singletons = .ok facts.singletons := by
  obtain ⟨singletons, inferred, derived⟩ := bind_ok derived
  obtain ⟨operations, -, derived⟩ := bind_ok derived
  obtain ⟨members, -, derived⟩ := bind_ok derived
  cases derived
  exact inferred

theorem countAbout_eq {found : List Finding} {segments : List String} {reports : String → Bool}
    (segment : String)
    (read : (found.filter (·.path == path)).map Finding.segment? = (segments.filter reports).map some) :
    countAbout found path segment = if reports segment then segments.count segment else 0 := by
  have counted : countAbout found path segment =
      ((found.filter (·.path == path)).map Finding.segment?).countP (· == some segment) := by
    rw [List.countP_map, List.countP_filter, countAbout]
    refine List.countP_congr fun finding _ => ?_
    rw [Bool.and_comm]
    rfl
  rw [counted, read, List.countP_map, List.countP_filter, List.count]
  cases reported : reports segment with
  | true =>
      rw [if_pos rfl]
      refine List.countP_congr fun other _ => ?_
      simp only [Function.comp_apply, Bool.and_eq_true, beq_iff_eq, Option.some.injEq]
      constructor
      · exact And.left
      · rintro rfl
        exact ⟨rfl, reported⟩
  | false =>
      rw [if_neg Bool.false_ne_true, List.countP_eq_zero]
      intro other _ same
      simp only [Function.comp_apply, Bool.and_eq_true, beq_iff_eq, Option.some.injEq] at same
      rw [same.1, reported] at same
      cases same.2

/-- How a bare verb is judged. Each finding about a path reports one place, and whether a place of
a bare verb is reported is seen from what stands in front of its last place. So there is no finding
about the verb, or one for each place; and these are as many as places behind which nothing takes
an action, if and only if all places of the verb agree on that. -/
theorem bare_verb_judged_iff (derived : ReviewFacts.ofSpec spec settings .standard = .ok facts)
    (declares : spec.DeclaresPaths declared) (distinct : declared.Nodup) {item : Members}
    (held : (.str path, .object item) ∈ pathItems facts.spec) :
    ∃ found, noVerbs.findingsOn settings .standard spec = .ok found ∧
      spec.singletons = .ok facts.singletons ∧
      (found.filter (·.path == path)).map Finding.segment? =
        (flagged path fun _ => reportsVerb facts path).map (fun (_, segment) => some segment) ∧
      ∀ segment, Segment.IsBareVerb settings segment → segment ∈ Path.segments path →
        ∃ last ∈ Path.places path segment, (∀ position ∈ Path.places path segment, position ≤ last) ∧
          let acts (position : Nat) :=
            Path.takesActions facts.singletons (Path.parent path position)
          (∀ position ∈ Path.places path segment,
            (position, segment) ∉ flagged path (fun _ => reportsVerb facts path) ↔
              acts last = true) ∧
          countAbout found path segment =
            (if acts last then 0 else (Path.places path segment).length) ∧
          (countAbout found path segment =
              ((Path.places path segment).filter fun position => !acts position).length ↔
            ∀ position ∈ Path.places path segment, acts position = acts last) := by
  have sameSettings := (ReviewFacts.ofSpec_ok derived).2.1
  have standard := ReviewFacts.vocabulary_ofSpec derived
  let context : RuleContext := ⟨facts, noVerbs.toRuleHeader⟩
  let entries := facts.paths.filter fun (entry : String × Node) => entry.2.isObject
  have listed : (path, Node.object item) ∈ entries :=
    List.mem_filter.mpr ⟨List.mem_map_of_mem held, rfl⟩
  have names := declares.keys_paths derived
  have apart : (entries.map (·.1)).Nodup :=
    (names ▸ distinct).sublist (List.filter_sublist.map _)
  have read : ((entries.flatMap fun (path, _) => lookForVerbs context path).filter
      (·.path == path)).map Finding.segment? =
        ((Path.segments path).filter (reportsVerb facts path)).map some := by
    rw [filter_reports (fun path finding => path_of_mem_lookForVerbs) apart listed,
      map_segment_lookForVerbs]
  refine ⟨entries.flatMap fun (path, _) => lookForVerbs context path, ?_,
    ReviewFacts.singletons_ofSpec derived, ?_, fun segment bare stands => ?_⟩
  · rw [Rule.findingsOn, derived]
    exact run_noVerbs facts
  · rw [read, ← map_snd_flagged, List.map_map]
    rfl
  · obtain ⟨lastPlace, atMost⟩ := Segment.lastPosition_spec stands
    refine ⟨_, lastPlace, atMost, ?_⟩
    intro acts
    rw [← sameSettings] at bare
    have reports : reportsVerb facts path segment =
        !acts (Segment.lastPosition segment (Path.segments path)) := bare.reportsVerb_eq standard
    have counted := countAbout_eq segment read
    rw [reports, ← Path.length_places] at counted
    refine ⟨fun position among => ?_, ?_, ?_⟩
    · rw [mem_flagged, reports, Path.mem_places.mp among]
      simp
    · rw [counted]
      cases acts (Segment.lastPosition segment (Path.segments path)) <;> rfl
    · rw [counted]
      cases acts (Segment.lastPosition segment (Path.segments path)) with
      | true =>
          rw [Bool.not_true, if_neg Bool.false_ne_true, eq_comm, List.length_eq_zero_iff,
            List.filter_eq_nil_iff]
          simp
      | false =>
          rw [Bool.not_false, if_pos rfl, eq_comm, List.length_filter_eq_length_iff]
          simp

/-- A verb in front of a parameter and behind it, and one that stands behind a singleton and then
behind a collection. -/
def repeatedVerbs : List String :=
  ["/reset/\x7bid\x7d/reset", "/config/reset/items", "/config/reset/items/\x7bid\x7d",
   "/config/reset/items/reset"]

theorem bare_verb_judged_iff_repeated :
    let spec : Node := .object [(.str "paths",
      .object (repeatedVerbs.map fun path => (.str path, .object [])))]
    spec.DeclaresPaths repeatedVerbs ∧ repeatedVerbs.Nodup ∧ Segment.IsBareVerb {} "reset" ∧
      ∃ facts found, ReviewFacts.ofSpec spec {} .standard = .ok facts ∧
        noVerbs.findingsOn {} .standard spec = .ok found ∧
        let mustReport (path : String) := (Path.places path "reset").filter fun position =>
          !Path.takesActions facts.singletons (Path.parent path position)
        mustReport "/reset/\x7bid\x7d/reset" = [0] ∧
          countAbout found "/reset/\x7bid\x7d/reset" "reset" = 0 ∧
          mustReport "/config/reset/items/reset" = [3] ∧
          countAbout found "/config/reset/items/reset" "reset" = 2 := by
  intro spec
  have declares : spec.DeclaresPaths repeatedVerbs := ⟨_, _, rfl, rfl, rfl⟩
  have distinct : repeatedVerbs.Nodup := by decide +kernel
  have bare : Segment.IsBareVerb {} "reset" :=
    ⟨by decide +kernel, by decide +kernel, by decide +kernel⟩
  have singletons : Path.singletons repeatedVerbs =
      ["/config/reset/items/reset", "/config", "/config/reset"] := by decide +kernel
  have course : (ReviewFacts.ofSpec spec {} .standard).toOption.any (fun facts =>
      facts.singletons == Path.singletons repeatedVerbs) = true := by decide +kernel
  obtain ⟨facts, derived, same⟩ := ok_of_any course
  have inferred : facts.singletons = _ := (eq_of_beq same).trans singletons
  have rooted : Members.get? facts.spec "paths" =
      some (.object (repeatedVerbs.map fun path => (.str path, .object []))) := by
    rw [← Node.object.inj (ReviewFacts.ofSpec_ok derived).1]
    rfl
  have held (path : String) (listed : path ∈ repeatedVerbs) :
      (.str path, .object []) ∈ pathItems facts.spec := by
    rw [pathItems, rooted]
    exact List.mem_map.mpr ⟨path, listed, rfl⟩
  obtain ⟨found, reported, -, -, judged⟩ :=
    bare_verb_judged_iff derived declares distinct (held "/reset/\x7bid\x7d/reset" (by decide))
  obtain ⟨_, again, -, -, judgedAgain⟩ :=
    bare_verb_judged_iff derived declares distinct (held "/config/reset/items/reset" (by decide))
  cases reported.symm.trans again
  have places : Path.places "/reset/\x7bid\x7d/reset" "reset" = [0, 2] ∧
      Path.places "/config/reset/items/reset" "reset" = [1, 3] := by decide +kernel
  obtain ⟨last, among, atMost, -, counted, -⟩ := judged "reset" bare (by decide +kernel)
  obtain ⟨lastAgain, amongAgain, atMostAgain, -, countedAgain, -⟩ :=
    judgedAgain "reset" bare (by decide +kernel)
  rw [places.1] at among atMost counted
  rw [places.2] at amongAgain atMostAgain countedAgain
  have final : last = 2 := by
    have behind := atMost 2 (by decide)
    simp only [List.mem_cons, List.not_mem_nil, or_false] at among
    omega
  have finalAgain : lastAgain = 3 := by
    have behind := atMostAgain 3 (by decide)
    simp only [List.mem_cons, List.not_mem_nil, or_false] at amongAgain
    omega
  subst final finalAgain
  refine ⟨declares, distinct, bare, facts, found, derived, reported, ?_⟩
  intro mustReport
  refine ⟨?_, ?_, ?_, ?_⟩
  · simp only [mustReport, places.1, inferred]
    decide +kernel
  · rw [counted, inferred]
    decide +kernel
  · simp only [mustReport, places.2, inferred]
    decide +kernel
  · rw [countedAgain, inferred]
    decide +kernel

end ApiReview
