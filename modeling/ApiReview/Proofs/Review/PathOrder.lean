import ApiReview.Proofs.Review.Selection
import ApiReview.Proofs.Rules.PathOrder

/-! What a review makes of the order of the paths in a document. -/

set_option autoImplicit false

namespace ApiReview

open Rules

/-! ## Findings of several rules -/

theorem mapM_flatten_perm {Error Entry Result : Type} {step other : Entry → Except Error (List Result)}
    {entries : List Entry} {groups : List (List Result)} {condition : Prop}
    (steps : ∀ entry ∈ entries, ∀ results, step entry = .ok results →
      ∃ others, other entry = .ok others ∧ (condition → results.Perm others))
    (walked : entries.mapM step = .ok groups) :
    ∃ others, entries.mapM other = .ok others ∧ (condition → groups.flatten.Perm others.flatten) := by
  induction entries generalizing groups with
  | nil =>
      cases walked
      exact ⟨[], rfl, fun _ => .refl _⟩
  | cons entry rest ih =>
      rw [List.mapM_cons] at walked
      obtain ⟨here, stepped, walked⟩ := bind_ok walked
      obtain ⟨later, behind, shape⟩ := bind_ok walked
      cases shape
      obtain ⟨hereThere, steppedThere, same⟩ := steps entry List.mem_cons_self here stepped
      obtain ⟨laterThere, behindThere, sameLater⟩ :=
        ih (fun entry among => steps entry (List.mem_cons_of_mem _ among)) behind
      refine ⟨hereThere :: laterThere, ?_, fun holds => ?_⟩
      · rw [List.mapM_cons, steppedThere, behindThere]
        rfl
      · rw [List.flatten_cons, List.flatten_cons]
        exact (same holds).append (sameLater holds)

section Findings

variable {first second : ReviewFacts} {firstPaths secondPaths : Members}
  (resembles : first.Resembles second firstPaths secondPaths) {rules : List Rule}
  {found : List Finding}

include resembles

theorem findings_resembles (builtIn : ∀ rule ∈ rules, rule ∈ Registry.standard.all)
    (ran : Reviewer.findings first rules = .ok found) :
    ∃ others, Reviewer.findings second rules = .ok others ∧
      ((∀ rule ∈ rules, rule.id = consistentCasing.id →
        isTied (styleCounts (pathTexts first.spec)) = false) → found.Perm others) := by
  obtain ⟨groups, walked, shape⟩ := bind_ok ran
  cases shape
  have steps : ∀ rule ∈ Reviewer.scheduled rules, ∀ found, rule.run first = .ok found →
      ∃ others, rule.run second = .ok others ∧
        ((∀ rule ∈ rules, rule.id = consistentCasing.id →
          isTied (styleCounts (pathTexts first.spec)) = false) → found.Perm others) := by
    intro rule listed found ran
    have given := mem_scheduled listed
    obtain ⟨others, ranThere, same⟩ := run_resembles resembles (builtIn rule given) ran
    exact ⟨others, ranThere, fun untied => same (untied rule given)⟩
  obtain ⟨others, walkedThere, permuted⟩ := mapM_flatten_perm steps walked
  exact ⟨others.flatten, by rw [Reviewer.findings, walkedThere]; rfl, permuted⟩

theorem info_resembles : first.info = second.info := by
  unfold ReviewFacts.info
  rw [resembles.reordered.rest "info" (by decide)]

end Findings

/-! ## Reviews -/

section Reviews

variable {reviewer : Reviewer} {first second firstPaths secondPaths : Members}
  {specPath? : Option String} {result other : ReviewResult}
  (builtIn : reviewer.registry.orStandard = .standard)
  (reordered : Reordered first second firstPaths secondPaths)

include builtIn

theorem mem_standard_of_active {rule : Rule} (active : rule ∈ reviewer.activeRules) :
    rule ∈ Registry.standard.all := by
  rw [← builtIn]
  exact (List.mem_filter.mp active).1

include reordered

theorem review_reordered (reviewed : reviewer.review (.object first) specPath? = .ok result) :
    ∃ other, reviewer.review (.object second) specPath? = .ok other := by
  obtain ⟨facts, found, title?, derived, gathered, titled, -⟩ := Reviewer.review_ok_iff.mp reviewed
  obtain ⟨others, derivedThere, resembles⟩ := ReviewFacts.ofSpec_reordered reordered derived
  rw [← Reviewer.findings_eq_gather] at gathered
  obtain ⟨foundThere, ranThere, -⟩ :=
    findings_resembles resembles (fun _ active => mem_standard_of_active builtIn active) gathered
  rw [Reviewer.findings_eq_gather] at ranThere
  rw [info_resembles resembles] at titled
  exact ⟨_, Reviewer.review_ok_iff.mpr ⟨_, _, _, derivedThere, ranThere, titled, rfl⟩⟩

theorem byRule_reordered {ruleId : String}
    (reviewed : reviewer.review (.object first) specPath? = .ok result)
    (reviewedThere : reviewer.review (.object second) specPath? = .ok other)
    (untied : ruleId = consistentCasing.id → isTied (styleCounts (pathTexts first)) = false) :
    (result.byRule ruleId).Perm (other.byRule ruleId) := by
  obtain ⟨facts, found, title?, derived, gathered, -, rfl⟩ := Reviewer.review_ok_iff.mp reviewed
  obtain ⟨shape, -⟩ := ReviewFacts.ofSpec_ok derived
  cases shape
  obtain ⟨others, foundThere, titleThere?, derivedThere, gatheredThere, -, rfl⟩ :=
    Reviewer.review_ok_iff.mp reviewedThere
  obtain ⟨_, again, resembles⟩ := ReviewFacts.ofSpec_reordered reordered derived
  rw [derivedThere] at again
  cases again
  let test (id : String) (_ : Category) : Bool := id == ruleId
  have stamps : ∀ rule ∈ reviewer.activeRules, rule.Stamps :=
    fun rule active => (standard_isProper (mem_standard_of_active builtIn active)).stamps
  -- what the review shows of one rule is what it would find if no other rule ran
  have part : facts.gather (facts.turns (reviewer.activeRules.filter (Rule.passes test))) = _ :=
    ReviewFacts.gather_filter stamps gathered
  have partThere : others.gather (others.turns (reviewer.activeRules.filter (Rule.passes test))) = _ :=
    ReviewFacts.gather_filter stamps gatheredThere
  rw [← Reviewer.findings_eq_gather] at part partThere
  obtain ⟨_, again, same⟩ := findings_resembles resembles (fun rule listed =>
    mem_standard_of_active builtIn (List.mem_filter.mp listed).1) part
  rw [partThere] at again
  cases again
  have permuted := same fun rule listed isCasing =>
    untied ((eq_of_beq (List.mem_filter.mp listed).2).symm.trans isCasing)
  change ((reviewer.shown found).filter (Finding.passes test)).Perm
    ((reviewer.shown foundThere).filter (Finding.passes test))
  rw [← Reviewer.shown_filter, ← Reviewer.shown_filter]
  unfold Reviewer.shown
  split
  · exact permuted.map _
  · exact permuted

end Reviews

/-- The order of the paths in a document does not matter. With the built-in rules, documents that
differ in nothing else both have a review or neither has, and a rule reports the same findings
about both, in some order; the rule on one casing style does unless two styles share the first
place. -/
theorem path_order_does_not_matter {reviewer : Reviewer} {root paths others : Members}
    (builtIn : reviewer.registry.orStandard = .standard)
    (held : Members.get? root "paths" = some (.object paths)) (permuted : paths.Perm others)
    (distinct : (Members.keys paths).Nodup) (specPath? : Option String) :
    ((∃ result, reviewer.review (.object root) specPath? = .ok result) ↔
      ∃ other, reviewer.review (.object (Members.put (.str "paths") (.object others) root))
        specPath? = .ok other) ∧
    ∀ result other, reviewer.review (.object root) specPath? = .ok result →
      reviewer.review (.object (Members.put (.str "paths") (.object others) root)) specPath? =
        .ok other →
      ∀ rule ∈ Registry.standard.all,
        (rule.id = consistentCasing.id → isTied (styleCounts (pathTexts root)) = false) →
        (result.byRule rule.id).Perm (other.byRule rule.id) := by
  have reordered : Reordered root (Members.put (.str "paths") (.object others) root) paths others :=
    { held, permuted, distinct
      heldThere := Members.get?_put_self
      rest := fun name different => (Members.get?_put_ne different).symm }
  refine ⟨⟨fun ⟨_, reviewed⟩ => review_reordered builtIn reordered reviewed,
    fun ⟨_, reviewed⟩ => review_reordered builtIn reordered.symm reviewed⟩, ?_⟩
  intro result other reviewed reviewedThere rule _ untied
  exact byRule_reordered builtIn reordered reviewed reviewedThere untied

/-- The paths of a document, one of which refers to a parameter of another one. -/
def referringPaths : Members :=
  [(.str "/order_items", .object [(.str "post", .object
     [(.str "parameters", .list
       [.object [(.str "$ref", .str "#/paths/~1audit_logs/parameters/0")]])])]),
   (.str "/userProfiles", .object []),
   (.str "/audit_logs", .object
     [(.str "parameters", .list
       [.object [(.str "name", .str "Idempotency-Key"), (.str "in", .str "header")]]),
      (.str "put", .object [])])]

/-- A reviewer that does not judge names of resources. -/
def namelessReviewer : Reviewer where
  settings := { skipRules := [pluralResources.id, noVerbs.id] }

theorem path_order_does_not_matter_referring :
    ∃ result other,
      namelessReviewer.review (.object [(.str "paths", .object referringPaths)]) none = .ok result ∧
      namelessReviewer.review (.object [(.str "paths", .object referringPaths.reverse)]) none =
        .ok other ∧
      result.findings.map (·.path) =
        ["/userProfiles", "components/schemas", "POST /order_items", "PUT /audit_logs"] ∧
      other.findings.map (·.path) =
        ["/userProfiles", "components/schemas", "PUT /audit_logs", "POST /order_items"] ∧
      ∀ rule ∈ Registry.standard.all, (result.byRule rule.id).Perm (other.byRule rule.id) := by
  have ran : (namelessReviewer.review (.object [(.str "paths", .object referringPaths)])
      none).toOption.any (fun result => result.findings.map (·.path) ==
        ["/userProfiles", "components/schemas", "POST /order_items", "PUT /audit_logs"]) = true := by
    decide +kernel
  have ranThere : (namelessReviewer.review (.object [(.str "paths", .object referringPaths.reverse)])
      none).toOption.any (fun result => result.findings.map (·.path) ==
        ["/userProfiles", "components/schemas", "PUT /audit_logs", "POST /order_items"]) = true := by
    decide +kernel
  obtain ⟨result, reviewed, places⟩ := ok_of_any ran
  obtain ⟨other, reviewedThere, placesThere⟩ := ok_of_any ranThere
  have untied : isTied (styleCounts (pathTexts [(.str "paths", .object referringPaths)])) = false := by
    decide +kernel
  have moved : Members.put (.str "paths") (.object referringPaths.reverse)
      [(.str "paths", .object referringPaths)] =
        [(.str "paths", Node.object referringPaths.reverse)] := rfl
  have builtIn : namelessReviewer.registry.orStandard = .standard := rfl
  have held : Members.get? [(.str "paths", Node.object referringPaths)] "paths" =
      some (.object referringPaths) := rfl
  obtain ⟨-, same⟩ := path_order_does_not_matter builtIn held
    (List.reverse_perm referringPaths).symm (by decide) none
  rw [moved] at same
  exact ⟨result, other, reviewed, reviewedThere, eq_of_beq places, eq_of_beq placesThere,
    fun rule listed => same result other reviewed reviewedThere rule listed fun _ => untied⟩

end ApiReview
