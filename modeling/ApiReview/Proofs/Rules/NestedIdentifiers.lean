import ApiReview.Proofs.Fix.RenamedDefinitions
import ApiReview.Proofs.Rules.RenamedTemplates
import ApiReview.Proofs.Spec.EditedOperation

/-! Identifiers in paths that nest resources. The fix for a placeholder `id` names it
after the resource in front of it, in the path and in all declarations of the path
item; then nothing is reported about the path any more. A declaration that is shared
with other paths stands in the way of a fix. -/

set_option autoImplicit false

namespace ApiReview

open ApiReview.Text ApiReview.Rules

variable {settings : Settings} {spec node : Node} {found report : List Finding} {finding : Finding}
  {context : RuleContext} {path segment parent name newPath : String} {position : Nat}
  {front behind segments definitions : List String} {item : Members} {fix : Fix}

/-! ## Whole placeholders -/

/-- A segment that is one placeholder, or has none at all. -/
def Segment.IsWhole (segment : String) : Prop :=
  IsPlain segment.toList ∨ ∃ name : String, IsPlain name.toList ∧ segment = placeholder name

/-- A path as templates are written: a slash in front of each segment, and each placeholder is a
segment and has a name of its own. -/
structure Path.IsTemplate (path : String) : Prop where
  canonical : Path.ofSegments (Path.segments path) = path
  whole : ∀ segment ∈ Path.segments path, Segment.IsWhole segment
  distinct : (Path.placeholders path).Nodup

theorem placeholders_placeholder (isPlain : IsPlain name.toList) :
    Segment.placeholders (placeholder name) = [placeholder name] := by
  have text : (placeholder name).toList = '\x7b' :: (name.toList ++ ['\x7d']) := by
    simp [placeholder]
  have closed : placeholdersAfter none (placeholder name).toList = [(placeholder name).toList] := by
    rw [text, placeholdersAfter, if_pos (by decide), placeholdersAfter_plain isPlain]
    simp [placeholdersAfter]
  rw [Segment.placeholders, closed, List.map_singleton, String.ofList_toList]

/-- The placeholders of a template are segments of it. -/
theorem Path.IsTemplate.mem_segments (template : Path.IsTemplate path)
    (among : segment ∈ Path.placeholders path) : segment ∈ Path.segments path := by
  obtain ⟨part, inside, among⟩ := List.mem_flatMap.mp among
  rcases template.whole part inside with isPlain | ⟨name, isPlain, rfl⟩
  · rw [Segment.placeholders, placeholdersAfter_of_plain isPlain] at among
    cases among
  · rw [placeholders_placeholder isPlain, List.mem_singleton] at among
    exact among ▸ inside

/-- A placeholder whose name no other has stands once in a path. -/
theorem generic_not_mem (distinct : (Path.placeholders path).Nodup)
    (split : Path.segments path = front ++ "{id}" :: behind) :
    "{id}" ∉ front ∧ "{id}" ∉ behind := by
  have own : Segment.placeholders "{id}" = ["{id}"] := by decide +kernel
  have listed {segments : List String} (among : "{id}" ∈ segments) :
      "{id}" ∈ segments.flatMap Segment.placeholders :=
    List.mem_flatMap.mpr ⟨_, among, own ▸ List.mem_singleton_self _⟩
  rw [Path.placeholders, split, List.flatMap_append, List.flatMap_cons, own, List.singleton_append,
    List.nodup_append, List.nodup_cons] at distinct
  obtain ⟨-, ⟨apart, -⟩, other⟩ := distinct
  exact ⟨fun among => other _ (listed among) _ List.mem_cons_self rfl,
    fun among => apart (listed among)⟩

/-! ## Names of owners -/

theorem slash_not_mem_placeholder (whole : '/' ∉ parent.toList) :
    '/' ∉ (placeholder (ownerId .standard parent)).toList := by
  have single : '/' ∉ (Segment.singularize .standard parent).toList :=
    fun among => whole (Segment.mem_of_mem_singularize (by decide) among)
  have converted := slash_not_mem_convert .camel single
  simp [placeholder, ownerId, converted]

/-- No owner is called so that its identifier is a mere `id`. -/
theorem placeholder_ne_generic (vocabulary : Vocabulary) (parent : String) :
    placeholder (ownerId vocabulary parent) ≠ "{id}" := by
  intro same
  have texts := congrArg (fun text => text.toList.reverse) same
  simp [placeholder, ownerId] at texts

/-! ## Paths with another placeholder -/

theorem replaceAt_behind (replacement : String)
    (split : Path.segments path = front ++ parent :: segment :: behind) :
    Path.replaceAt path (fun other => if other = front.length + 1 then some replacement else none) =
      Path.ofSegments (front ++ parent :: replacement :: behind) := by
  have size : front.length + 1 = (front ++ [parent]).length := by
    rw [List.length_append, List.length_singleton]
  rw [Path.replaceAt, split, List.append_cons front parent (segment :: behind),
    List.append_cons front parent (replacement :: behind), size]
  generalize front ++ [parent] = owners
  congr 1
  refine List.ext_getElem? fun position => ?_
  rw [List.getElem?_mapIdx]
  rcases Nat.lt_trichotomy position owners.length with before | rfl | after
  · simp [List.getElem?_append_left before, Nat.ne_of_lt before]
  · simp
  · obtain ⟨more, rfl⟩ := Nat.exists_eq_add_of_lt after
    simp [List.getElem?_append_right, Nat.add_assoc]

theorem mem_ownedPositions (owned : position ∈ ownedPositions segments)
    (here : segments[position]? = some segment) :
    ∃ front parent behind, segments = front ++ parent :: segment :: behind ∧
      position = front.length + 1 := by
  cases position with
  | zero => cases (List.mem_filter.mp owned).2
  | succ before =>
      obtain ⟨inside, rfl⟩ := List.getElem?_eq_some_iff.mp here
      have behind_parent := Nat.lt_of_succ_lt inside
      refine ⟨segments.take before, segments[before], segments.drop (before + 2), ?_, ?_⟩
      · rw [← List.drop_eq_getElem_cons inside, ← List.drop_eq_getElem_cons behind_parent,
          List.take_append_drop]
      · rw [List.length_take, Nat.min_eq_left (Nat.le_of_lt behind_parent)]

/-! ## Findings -/

/-- Nothing is reported about a path without a placeholder `id`. -/
theorem lookForGenericIds_of_not_mem (context : RuleContext) (node : Node)
    (absent : "{id}" ∉ Path.segments path) : lookForGenericIds context path node = .ok [] := by
  have none_generic : ((ownedPositions (Path.segments path)).filter fun position =>
      (Path.segments path)[position]? == some "\x7bid\x7d") = [] := by
    rw [List.filter_eq_nil_iff]
    intro position _ here
    exact absent (List.mem_of_getElem? (eq_of_beq here))
  rw [lookForGenericIds]
  split
  · rfl
  · rw [none_generic]
    rfl

/-- A fix gives the placeholder `id` of a path the name of its owner. -/
structure ProposesOwner (facts : ReviewFacts) (finding : Finding) (item : Members) (fix : Fix)
    (front : List String) (parent : String) (behind definitions : List String)
    (newPath : String) : Prop where
  located : Path.segments finding.path = front ++ parent :: "{id}" :: behind
  suggestion : finding.suggestion? = some ("Rename to '" ++
    placeholder (ownerId facts.vocabulary parent) ++ "' so the owning resource is clear")
  fresh : placeholder (ownerId facts.vocabulary parent) ∉ Path.segments finding.path
  target : newPath =
    Path.ofSegments (front ++ parent :: placeholder (ownerId facts.vocabulary parent) :: behind)
  collected : allIdDefinitions? facts.document newPath (parameterLevels item) =
    .ok (some definitions)
  renames : fix = Fix.renameParameter finding.path newPath "id" (ownerId facts.vocabulary parent)
    definitions

/-- Nothing is reported about a path that was renamed after the owner of its identifier. -/
theorem ProposesOwner.lookForGenericIds_target {facts : ReviewFacts}
    (proposes : ProposesOwner facts finding item fix front parent behind definitions newPath)
    (standard : facts.vocabulary = .standard) (distinct : (Path.placeholders finding.path).Nodup)
    (context : RuleContext) (node : Node) : lookForGenericIds context newPath node = .ok [] := by
  apply lookForGenericIds_of_not_mem
  obtain ⟨ahead, after⟩ := generic_not_mem distinct
    (proposes.located.trans (List.append_cons front parent ("{id}" :: behind)))
  -- no segment but the placeholder is new, so that the segments of the new path can be read off
  have whole : ∀ part ∈ front ++ parent :: placeholder (ownerId .standard parent) :: behind,
      part = placeholder (ownerId .standard parent) ∨ part ∈ Path.segments finding.path := by
    intro part among
    rw [proposes.located]
    simp only [List.mem_append, List.mem_cons] at among ⊢
    tauto
  rw [proposes.target, standard, Path.segments_ofSegments]
  · intro among
    have among := (List.mem_filter.mp among).1
    rw [List.append_cons, List.mem_append, List.mem_cons] at among
    rcases among with among | same | among
    · exact ahead among
    · exact placeholder_ne_generic _ _ same.symm
    · exact after among
  · intro part among
    rcases whole part among with rfl | inside
    · exact slash_not_mem_placeholder
        (segment_shape (by simp [proposes.located] : parent ∈ Path.segments finding.path)).2
    · exact (segment_shape inside).2

theorem ownershipFix?_eq_some {facts : ReviewFacts}
    (offered : ownershipFix? facts path node position name = .ok (some fix)) :
    placeholder name ∉ Path.segments path ∧ ∃ item definitions, node = .object item ∧
      allIdDefinitions? facts.document (Path.replaceAt path fun other =>
        if other = position then some (placeholder name) else none) (parameterLevels item) =
          .ok (some definitions) ∧
      fix = Fix.renameParameter path (Path.replaceAt path fun other =>
        if other = position then some (placeholder name) else none) "id" name definitions := by
  rw [ownershipFix?] at offered
  split at offered
  · cases offered
  · rename_i fresh
    obtain ⟨item, rooted, offered⟩ := bind_ok offered
    obtain ⟨definitions?, collected, offered⟩ := bind_ok offered
    obtain ⟨definitions, rfl, rfl⟩ := Option.map_eq_some_iff.mp (Except.ok.inj offered)
    cases node with
    | object members =>
        cases rooted
        exact ⟨by simpa using fresh, item, definitions, rfl, collected, rfl⟩
    | _ => cases rooted

/-- Each finding is about the path, and a fix comes with the single placeholder `id`. -/
theorem mem_lookForGenericIds (looked : lookForGenericIds context path node = .ok report)
    (among : finding ∈ report) : finding.path = path ∧ ∀ fix, finding.fix? = some fix →
      ∃ item front parent behind definitions newPath, node = .object item ∧
        ProposesOwner context.facts finding item fix front parent behind definitions newPath := by
  rw [lookForGenericIds] at looked
  split at looked
  · cases looked
    cases among
  · dsimp only at looked
    split at looked
    · rename_i position single
      obtain ⟨fix?, offered, shape⟩ := bind_ok looked
      cases shape
      rw [single] at among
      cases List.mem_singleton.mp among
      refine ⟨rfl, fun fix attached => ?_⟩
      cases attached
      have listed : position ∈ [position] := List.mem_singleton_self _
      rw [← single, List.mem_filter] at listed
      obtain ⟨front, parent, behind, split, rfl⟩ := mem_ownedPositions listed.1 (eq_of_beq listed.2)
      have owner : (Path.segments path)[front.length + 1 - 1]?.getD "" = parent := by
        simp [split]
      rw [owner] at offered
      obtain ⟨fresh, item, definitions, rfl, collected, rfl⟩ := ownershipFix?_eq_some offered
      refine ⟨item, front, parent, behind, definitions, _, rfl, split, ?_, fresh,
        replaceAt_behind _ split, collected, rfl⟩
      rw [← owner]
      rfl
    · cases looked
      obtain ⟨position, -, rfl⟩ := List.mem_map.mp among
      exact ⟨rfl, nofun⟩

theorem look_nestedOwnership (facts : ReviewFacts) (path : String) (node : Node) :
    nestedOwnership.look facts (.path path node) =
      lookForGenericIds ⟨facts, nestedOwnership.toRuleHeader⟩ path node :=
  rfl

/-- A finding is about the path of a path item that is an object. -/
theorem nestedOwnership_reports
    (reported : nestedOwnership.findingsOn settings .standard spec = .ok found)
    (among : finding ∈ found) :
    ∃ facts key item, ReviewFacts.ofSpec spec settings .standard = .ok facts ∧
      (key, .object item) ∈ pathItems facts.spec ∧ finding.path = key.display ∧
      nestedOwnership.Reports facts (.path finding.path (.object item)) finding := by
  obtain ⟨facts, derived, ran⟩ := Rule.findingsOn_ok reported
  obtain ⟨element, visited, -, reports⟩ := Rule.mem_run ran among
  obtain ⟨⟨path, node⟩, kept, shape⟩ := List.mem_map.mp visited
  cases shape
  obtain ⟨listed, isObject⟩ := List.mem_filter.mp kept
  obtain ⟨⟨key, value⟩, inside, shape⟩ := List.mem_map.mp listed
  cases shape
  have about : finding.path = key.display := by
    cases reports with
    | looked looks inReport =>
        rw [look_nestedOwnership] at looks
        exact (mem_lookForGenericIds looks inReport).1
    | failed looks shape => exact shape ▸ rfl
  cases node with
  | object item => exact ⟨facts, key, item, derived, inside, about, about ▸ reports⟩
  | _ => cases isObject

theorem exists_proposesOwner {facts : ReviewFacts}
    (reports : nestedOwnership.Reports facts (.path path (.object item)) finding)
    (attached : finding.fix? = some fix) : ∃ front parent behind definitions newPath,
      ProposesOwner facts finding item fix front parent behind definitions newPath := by
  cases reports with
  | looked looks inReport =>
      rw [look_nestedOwnership] at looks
      obtain ⟨members, front, parent, behind, definitions, newPath, shape, proposes⟩ :=
        (mem_lookForGenericIds looks inReport).2 fix attached
      cases shape
      exact ⟨front, parent, behind, definitions, newPath, proposes⟩
  | failed looks shape =>
      rw [shape] at attached
      cases attached

theorem ne_of_not_reported (quiet : ∀ facts node, nestedOwnership.look facts (.path path node) = .ok [])
    (reported : nestedOwnership.findingsOn settings .standard spec = .ok found)
    (among : finding ∈ found) : finding.path ≠ path := by
  rintro rfl
  obtain ⟨facts, key, item, -, -, -, reports⟩ := nestedOwnership_reports reported among
  cases reports with
  | looked looks inReport =>
      rw [quiet] at looks
      cases looks
      cases inReport
  | failed looks _ =>
      rw [quiet] at looks
      cases looks

/-! ## Shared declarations -/

/-- A reference in a parameter list of a path item comes to the path parameter `id`. -/
def SharesId (spec : Node) (item : Members) : Prop :=
  ∃ level ∈ parameterLevels item, ∃ items members shared,
    parameterItems level.2 = .ok items ∧ Node.object members ∈ items ∧
    Members.has members "$ref" = true ∧
    resolve? spec referenceLimit (.object members) = .ok (some (.object shared)) ∧
    declaresId shared = true

theorem not_sharesId_of_allIdDefinitions?
    (collected : allIdDefinitions? spec path (parameterLevels item) = .ok (some definitions)) :
    ¬ SharesId spec item := by
  rintro ⟨level, among, items, members, shared, read, inside, refers, resolved, declares⟩
  generalize parameterLevels item = levels at collected among
  induction levels generalizing definitions with
  | nil => cases among
  | cons first rest ih =>
      obtain ⟨method?, owner⟩ := first
      obtain ⟨ownItems, own, more, ownRead, listed, later, rfl⟩ :=
        allIdDefinitions?_cons_ok collected
      rcases List.mem_cons.mp among with rfl | among
      · cases read.symm.trans ownRead
        have other := not_declaresId_of_idDefinitions? listed inside refers resolved
        cases declares.symm.trans other
      · exact ih later among

/-! ## Exactness -/

/-- The fix for an identifier in a nested path, if it is applied. The path is renamed in its place
to one with the name of the owner for `id`, the inline declarations of the path item are renamed
with it, and no other value changes. Nothing is reported about the path any more. There is no fix if
a list of the path item refers to a declaration of `id`. -/
theorem nested_rename_exact (named : spec.isNamed = true)
    (reported : nestedOwnership.findingsOn settings .standard spec = .ok found)
    (among : finding ∈ found) :
    (∃ around item, spec = AroundItem.holding around finding.path item) ∧
      ∀ around item, spec = AroundItem.holding around finding.path item →
        (SharesId spec item → finding.fix? = none) ∧
        (Path.IsTemplate finding.path → HasLowerMethods item →
          ∀ fix log ruleId session outcome, finding.fix? = some fix →
            PatchSession.applyFix ⟨spec, log⟩ fix ruleId = .ok (session, outcome) →
            outcome.applied = true →
            ∃ front parent behind name newPath,
              Path.segments finding.path = front ++ parent :: "{id}" :: behind ∧
              finding.path = Path.ofSegments (front ++ parent :: "{id}" :: behind) ∧
              name = ownerId .standard parent ∧
              finding.suggestion? = some
                ("Rename to '" ++ placeholder name ++ "' so the owning resource is clear") ∧
              placeholder name ∉ Path.placeholders finding.path ∧
              newPath = Path.ofSegments (front ++ parent :: placeholder name :: behind) ∧
              session.document = around.holding newPath (renamedItem name item) ∧
              (∀ facts node, nestedOwnership.look facts (.path newPath node) = .ok []) ∧
              ∀ again, nestedOwnership.findingsOn settings .standard session.document = .ok again →
                ∀ other ∈ again, other.path ≠ newPath) := by
  obtain ⟨facts, key, held, derived, listed, about, reports⟩ :=
    nestedOwnership_reports reported among
  obtain ⟨rfl, -, -⟩ := ReviewFacts.ofSpec_ok derived
  have standard := ReviewFacts.vocabulary_ofSpec derived
  obtain ⟨⟨path, rfl⟩, -⟩ := isNamed_pathItem named listed
  have itemAt := at?_pathItem named listed
  have samePath : finding.path = path := about
  rw [← samePath] at itemAt
  constructor
  · obtain ⟨around, shape, -, -⟩ := exists_around itemAt
    exact ⟨around, held, shape⟩
  · intro around item shape
    have holds : (around.holding finding.path item).isNamed = true := shape ▸ named
    obtain ⟨free, pathFree⟩ := AroundItem.free_of_isNamed holds
    rw [shape, AroundItem.at?_holding free pathFree, Option.some.injEq, Node.object.injEq] at itemAt
    subst itemAt
    constructor
    · intro shares
      cases attached : finding.fix? with
      | none => rfl
      | some fix =>
          obtain ⟨front, parent, behind, definitions, newPath, proposes⟩ :=
            exists_proposesOwner reports attached
          exact absurd shares (not_sharesId_of_allIdDefinitions? proposes.collected)
    · intro template lowered fix log ruleId session outcome attached ran applied
      obtain ⟨front, parent, behind, definitions, newPath, proposes⟩ :=
        exists_proposesOwner reports attached
      have quiet (facts : ReviewFacts) (node : Node) :
          nestedOwnership.look facts (.path newPath node) = .ok [] := by
        rw [look_nestedOwnership]
        exact proposes.lookForGenericIds_target standard template.distinct _ node
      refine ⟨front, parent, behind, _, newPath, proposes.located, ?_, standard ▸ rfl,
        proposes.suggestion, fun there => proposes.fresh (template.mem_segments there),
        proposes.target, ?_, quiet, fun again rerun other => ne_of_not_reported quiet rerun⟩
      · rw [← proposes.located, template.canonical]
      · have changed := (PatchSession.applyFix_ok ran).2.applyAll_of_applied applied
        obtain rfl := proposes.renames
        rw [shape] at changed
        exact renameParameter_ok holds lowered proposes.collected changed

/-- A document with a place for the orders of users, between other paths. -/
def aroundOrders : AroundItem where
  before := [(.str "openapi", .str "3.0.0")]
  pathsBefore := [(.str "/users", .object [])]
  pathsAfter := [(.str "/orders/{id}", .object [(.str "parameters", .list
    [.object [(.str "name", .str "id"), (.str "in", .str "path")]])])]
  after := [(.str "components", .object [(.str "parameters", .object
    [(.str "Id", .object [(.str "name", .str "id"), (.str "in", .str "path")]),
     (.str "User", .object [(.str "name", .str "userId"), (.str "in", .str "path")])])])]

/-- A path item that declares its identifier at two levels, among other items. -/
def orderItem : Members :=
  [(.str "summary", .str "id"),
   (.str "get", .object [(.str "parameters", .list
     [.str "id", .object [(.str "name", .str "id"), (.str "in", .str "query")],
      .object [(.str "name", .str "id"), (.str "in", .str "path"), (.str "required", .bool true)]])]),
   (.str "parameters", .list
     [.object [(.str "$ref", .str "#/components/parameters/User")],
      .object [(.str "in", .str "path"), (.str "name", .str "id")]])]

/-- A path item that refers to a shared declaration of its identifier. -/
def sharingItem : Members :=
  [(.str "parameters", .list [.object [(.str "$ref", .str "#/components/parameters/Id")]])]

theorem segments_orders :
    Path.segments "/users/{userId}/orders/{id}" = ["users", "{userId}", "orders", "{id}"] := by
  decide +kernel

theorem isTemplate_orders : Path.IsTemplate "/users/{userId}/orders/{id}" := by
  refine ⟨by rw [segments_orders]; rfl, fun segment among => ?_, by decide +kernel⟩
  rw [segments_orders] at among
  simp only [List.mem_cons, List.not_mem_nil, or_false] at among
  have plain : IsPlain "users".toList ∧ IsPlain "userId".toList ∧ IsPlain "orders".toList ∧
      IsPlain "id".toList := by
    simp only [isPlain_iff]
    decide
  rcases among with rfl | rfl | rfl | rfl
  · exact .inl plain.1
  · exact .inr ⟨"userId", plain.2.1, rfl⟩
  · exact .inl plain.2.2.1
  · exact .inr ⟨"id", plain.2.2.2, rfl⟩

theorem nested_rename_exact_orders :
    (∃ found finding fix session outcome,
      nestedOwnership.findingsOn {} .standard
        (aroundOrders.holding "/users/{userId}/orders/{id}" orderItem) = .ok found ∧
      finding ∈ found ∧ finding.fix? = some fix ∧
      PatchSession.applyFix ⟨aroundOrders.holding "/users/{userId}/orders/{id}" orderItem, []⟩ fix
        nestedOwnership.id = .ok (session, outcome) ∧ outcome.applied = true ∧
      session.document = aroundOrders.holding "/users/{userId}/orders/{orderId}"
        (renamedItem "orderId" orderItem)) ∧
    ∃ found finding,
      nestedOwnership.findingsOn {} .standard
        (aroundOrders.holding "/users/{userId}/orders/{id}" sharingItem) = .ok found ∧
      finding ∈ found ∧ finding.fix? = none := by
  constructor
  · have course : (nestedOwnership.findingsOn {} .standard
        (aroundOrders.holding "/users/{userId}/orders/{id}" orderItem)).toOption.any (fun found =>
          found.any fun finding => finding.path == "/users/{userId}/orders/{id}" &&
            finding.fix?.any fun fix => (PatchSession.applyFix
              ⟨aroundOrders.holding "/users/{userId}/orders/{id}" orderItem, []⟩ fix
              nestedOwnership.id).toOption.any fun (_, outcome) => outcome.applied) = true := by
      decide +kernel
    obtain ⟨found, reported, among⟩ := ok_of_any course
    obtain ⟨finding, among, shape⟩ := List.any_eq_true.mp among
    simp only [Bool.and_eq_true, beq_iff_eq] at shape
    obtain ⟨path, runs⟩ := shape
    obtain ⟨fix, attached, ran⟩ := (Option.any_eq_true _ _).mp runs
    obtain ⟨⟨session, outcome⟩, ran, applied⟩ := ok_of_any ran
    have named : (aroundOrders.holding "/users/{userId}/orders/{id}" orderItem).isNamed = true := by
      decide +kernel
    have lowered : HasLowerMethods orderItem := by
      intro method value among
      simp only [orderItem, List.mem_cons, Prod.mk.injEq, Key.str.injEq, List.not_mem_nil,
        or_false] at among
      rcases among with ⟨rfl, -⟩ | ⟨rfl, -⟩ | ⟨rfl, -⟩ <;> decide
    obtain ⟨-, exact⟩ := nested_rename_exact named reported among
    obtain ⟨-, renames⟩ := exact aroundOrders orderItem (by rw [path])
    obtain ⟨front, parent, behind, name, newPath, located, -, rfl, -, -, rfl, changed, -⟩ :=
      renames (path ▸ isTemplate_orders) lowered fix [] nestedOwnership.id session outcome attached
        ran applied
    have place : front = ["users", "{userId}"] ∧ parent = "orders" ∧ behind = [] := by
      rw [path, segments_orders] at located
      rcases front with _ | ⟨_, _ | ⟨_, _ | ⟨_, _ | ⟨_, more⟩⟩⟩⟩ <;>
        simp [eq_comm, and_assoc] at located ⊢
      exact located
    obtain ⟨rfl, rfl, rfl⟩ := place
    have owner : ownerId .standard "orders" = "orderId" := by decide +kernel
    rw [owner] at changed
    exact ⟨found, finding, fix, session, outcome, reported, among, attached, ran, applied, changed⟩
  · have course : (nestedOwnership.findingsOn {} .standard
        (aroundOrders.holding "/users/{userId}/orders/{id}" sharingItem)).toOption.any (fun found =>
          found.any fun finding => finding.path == "/users/{userId}/orders/{id}") = true ∧
        (resolve? (aroundOrders.holding "/users/{userId}/orders/{id}" sharingItem) referenceLimit
          (.object [(.str "$ref", .str "#/components/parameters/Id")])).toOption.any (fun shared? =>
            (shared?.bind Node.members?).any declaresId) = true := by
      decide +kernel
    obtain ⟨reports, resolves⟩ := course
    obtain ⟨found, reported, among⟩ := ok_of_any reports
    obtain ⟨finding, among, path⟩ := List.any_eq_true.mp among
    obtain ⟨shared?, resolved, declares⟩ := ok_of_any resolves
    obtain ⟨shared, isShared, declares⟩ := (Option.any_eq_true _ _).mp declares
    obtain ⟨node, rfl, members⟩ := Option.bind_eq_some_iff.mp isShared
    obtain rfl : node = .object shared := by
      cases node <;> cases members
      rfl
    have shares : SharesId (aroundOrders.holding "/users/{userId}/orders/{id}" sharingItem)
        sharingItem :=
      ⟨(none, sharingItem), List.mem_cons_self, _, _, shared, rfl, List.mem_singleton_self _, rfl,
        resolved, declares⟩
    obtain ⟨-, exact⟩ := nested_rename_exact (by decide +kernel) reported among
    exact ⟨found, finding, reported, among,
      (exact aroundOrders sharingItem (by rw [eq_of_beq path])).1 shares⟩

end ApiReview
