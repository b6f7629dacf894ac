import ApiReview.Proofs.Outcome
import ApiReview.Review
import ApiReview.Rule.Scripted

/-! What can be relied on in rules, and why the built-in rules and those given by
data bear it out. Each reports findings stamped with its own id and category only,
each answers for its own kind of element whatever it fails of, and none reads which
rules were selected to run or what becomes of failures. -/

set_option autoImplicit false

namespace ApiReview

open Rules

/-- The facts of a document under other settings. -/
def ReviewFacts.under (facts : ReviewFacts) (settings : Settings) : ReviewFacts :=
  { facts with settings }

/-- The settings with another selection of the rules that run. -/
def Settings.selecting (settings : Settings) (skipRules : List String)
    (categories? : Option (List Category)) : Settings :=
  { settings with skipRules, categories? }

/-- The settings with another policy for failures. -/
def Settings.onFailure (settings : Settings) (policy : FailurePolicy) : Settings :=
  { settings with onRuleError := policy }

namespace Rule

/-- A rule makes all its findings with its own stamp. -/
def Stamps (rule : Rule) : Prop :=
  ∀ facts element findings, rule.look facts element = .ok findings → ∀ finding ∈ findings,
    ∃ path message details,
      finding = RuleContext.finding ⟨facts, rule.toRuleHeader⟩ path message details

/-- A rule does not read which rules run. -/
def IgnoresSelection (rule : Rule) : Prop :=
  ∀ (facts : ReviewFacts) skipRules categories? element,
    rule.look (facts.under (facts.settings.selecting skipRules categories?)) element =
      rule.look facts element

/-- A rule does not read what becomes of failures. -/
def IgnoresPolicy (rule : Rule) : Prop :=
  ∀ (facts : ReviewFacts) policy element,
    rule.look (facts.under (facts.settings.onFailure policy)) element = rule.look facts element

/-- A rule that fails on an element of its own kind does not claim to be asked for another one. -/
def KnowsItsKind (rule : Rule) : Prop :=
  ∀ facts element cause, element.kind = rule.kind → rule.look facts element = .error cause →
    cause.isWrongRuleKind = false

end Rule

/-! ## Failures of computations -/

/-- A computation does not fail as a rule does that is asked for another kind of element. -/
inductive IsApt {Value : Type} : Except Fault Value → Prop where
  | ok (value : Value) : IsApt (.ok value)
  | failed {cause : Fault} : cause.isWrongRuleKind = false → IsApt (.error cause)

section Computations

variable {Value Result : Type} {source : Except Fault Value}

theorem isApt_bind {next : Value → Except Fault Result} (first : IsApt source)
    (second : ∀ value, IsApt (next value)) : IsApt (source >>= next) := by
  cases first with
  | ok value => exact second value
  | failed other => exact .failed other

theorem isApt_mapM {step : Value → Except Fault Result} {values : List Value}
    (apt : ∀ value, IsApt (step value)) : IsApt (values.mapM step) := by
  induction values with
  | nil => exact .ok _
  | cons value rest ih =>
      rw [List.mapM_cons]
      exact isApt_bind (apt value) fun _ => isApt_bind ih fun _ => .ok _

theorem isApt_filterM {test : Value → Except Fault Bool} (values : List Value)
    (apt : ∀ value, IsApt (test value)) : IsApt (values.filterM test) := by
  have walked : ∀ kept, IsApt (values.filterAuxM test kept) := by
    induction values with
    | nil => exact fun kept => .ok kept
    | cons value rest ih => exact fun kept => isApt_bind (apt value) fun _ => ih _
  exact isApt_bind (walked []) fun _ => .ok _

theorem isApt_asObject (node : Node) : IsApt node.asObject := by
  cases node <;> constructor <;> rfl

theorem isApt_elements (node : Node) : IsApt node.elements := by
  cases node <;> constructor <;> rfl

theorem isApt_mentions (node : Node) (name : String) : IsApt (node.mentions name) := by
  cases node <;> constructor <;> rfl

theorem isApt_descend? (names : List String) (node : Node) : IsApt (descend? names node) := by
  induction names generalizing node with
  | nil => exact .ok _
  | cons name rest ih =>
      unfold descend?
      grind [IsApt, Fault.isWrongRuleKind]

theorem isApt_resolve? (spec : Node) (limit : Nat) (node : Node) :
    IsApt (resolve? spec limit node) := by
  induction limit generalizing node with
  | zero => exact .ok _
  | succ limit ih =>
      unfold resolve?
      split
      · exact .ok _
      · refine isApt_bind ?_ fun target? => ?_
        · unfold follow?
          split
          · exact isApt_descend? ..
          · exact .ok _
        · cases target? with
          | none => exact .ok _
          | some target => exact ih target
      · exact .ok _

theorem isApt_referenceAddress? (reference : Node) : IsApt (referenceAddress? reference) := by
  cases reference <;> constructor <;> rfl

theorem isApt_resolveWithAddress (spec node : Node) (address : String) :
    IsApt (resolveWithAddress spec node address) := by
  unfold resolveWithAddress
  split
  · exact .ok _
  · refine isApt_bind (isApt_referenceAddress? _) fun _ => ?_
    refine isApt_bind (isApt_resolve? ..) fun _ => ?_
    split <;> exact .ok _

theorem isApt_response? (responses : Node) (code : String) : IsApt (response? responses code) := by
  refine isApt_bind (isApt_mentions ..) fun mentioned => ?_
  split
  · split
    · exact .ok _
    · exact .failed rfl
  · split
    · refine isApt_bind (isApt_asObject _) fun members => ?_
      split
      · exact .ok _
      · exact .failed rfl
    · exact .ok _

theorem isApt_mediaType? (content : Node) : IsApt (mediaType? content) := by
  refine isApt_bind (isApt_filterM _ fun _ => isApt_mentions ..) fun mentioned => ?_
  split
  · exact .ok _
  · exact isApt_bind (isApt_elements _) fun _ => .ok _

theorem isApt_responseSchema? (spec : Node) (operation : Operation) (code : String) :
    IsApt (responseSchema? spec operation code) := by
  refine isApt_bind (isApt_response? ..) fun response? => ?_
  split
  · exact .ok _
  · refine isApt_bind (isApt_resolveWithAddress ..) fun resolved? => ?_
    split
    · exact .ok _
    · refine isApt_bind (isApt_mediaType? _) fun mediaType? => ?_
      split
      · exact .ok _
      · refine isApt_bind (isApt_asObject _) fun content => ?_
        refine isApt_bind (isApt_asObject _) fun media => ?_
        split
        · exact .ok _
        · exact isApt_resolveWithAddress ..

theorem isApt_responseCodes (operation : Operation) : IsApt operation.responseCodes :=
  isApt_bind (isApt_elements _) fun _ => .ok _

theorem isApt_parameterItems (owner : Members) : IsApt (parameterItems owner) := by
  unfold parameterItems
  split
  · split
    · exact isApt_elements _
    · exact .ok _
  · exact .ok _

theorem isApt_idDefinitions? (document : Node) (list : String) (position : Nat)
    (items : List Node) : IsApt (idDefinitions? document list position items) := by
  induction items generalizing position with
  | nil => exact .ok _
  | cons item items ih =>
      cases item with
      | object members =>
          unfold idDefinitions?
          split
          · refine isApt_bind (isApt_resolve? ..) fun shared? => ?_
            simp only
            split
            · exact .ok _
            · exact ih _
          · refine isApt_bind (ih _) fun more? => ?_
            split <;> exact .ok _
      | _ => exact ih _

theorem isApt_allIdDefinitions? (document : Node) (path : String)
    (levels : List (Option String × Members)) :
    IsApt (allIdDefinitions? document path levels) := by
  induction levels with
  | nil => exact .ok _
  | cons level levels ih =>
      refine isApt_bind (isApt_parameterItems _) fun items => ?_
      refine isApt_bind (isApt_idDefinitions? ..) fun definitions? => ?_
      split
      · exact .ok _
      · exact isApt_bind ih fun _ => .ok _

theorem isApt_ownershipFix? (facts : ReviewFacts) (path : String) (pathItem : Node)
    (position : Nat) (newName : String) :
    IsApt (ownershipFix? facts path pathItem position newName) := by
  unfold ownershipFix?
  split
  · exact .ok _
  · refine isApt_bind (isApt_asObject _) fun members => ?_
    exact isApt_bind (isApt_allIdDefinitions? ..) fun _ => .ok _

theorem isApt_addParameters (path method : String) (parameters : List Node) :
    IsApt (Fix.addParameters path method parameters) := by
  refine isApt_bind (isApt_mapM fun parameter => ?_) fun names => ?_
  · cases parameter with
    | object members =>
        simp only
        split
        · exact .ok _
        · exact .failed rfl
    | _ => exact .failed rfl
  · rcases parameters with _ | ⟨first, _ | _⟩
    · exact .failed rfl
    · exact .ok _
    · exact .ok _

theorem isApt_proposedPatch? (path : String) (pathItem : Node) :
    IsApt (proposedPatch? path pathItem) := by
  cases pathItem <;> constructor <;> rfl

theorem isApt_errorSchemaNames (facts : ReviewFacts) : IsApt (errorSchemaNames facts) := by
  refine isApt_bind (isApt_mapM fun member => ?_) fun _ => .ok _
  obtain ⟨key, value⟩ := member
  cases key with
  | str name => exact .ok name
  | _ => exact .failed rfl

theorem isApt_schemaAddress (parameter : Parameter) (schema : Members) :
    IsApt (schemaAddress parameter schema) := by
  unfold schemaAddress
  split
  · exact isApt_referenceAddress? _
  · exact .ok _

theorem isApt_mentionsAny (properties : Node) (names : List String) :
    IsApt (mentionsAny properties names) := by
  induction names with
  | nil => exact .ok _
  | cons name names ih =>
      refine isApt_bind (isApt_mentions ..) fun mentioned => ?_
      split
      · exact .ok _
      · exact ih

end Computations

/-! ## Reports -/

/-- A report that is stamped, or the failure of a rule that is asked for its own kind. -/
inductive Report.IsProper (context : RuleContext) : Report → Prop where
  | reported {findings : List Finding} :
      (∀ finding ∈ findings, ∃ path message details,
        finding = context.finding path message details) → IsProper context (.ok findings)
  | failed {cause : Fault} : cause.isWrongRuleKind = false → IsProper context (.error cause)

namespace Report.IsProper

variable {context : RuleContext} {Value : Type}

theorem nothing : IsProper context (.ok []) := .reported (by simp)

theorem one (path message : String) (details : Details) :
    IsProper context (.ok [context.finding path message details]) :=
  .reported (by simp)

theorem many (entries : List Value) (path message : Value → String) (details : Value → Details) :
    IsProper context (.ok (entries.map fun entry =>
      context.finding (path entry) (message entry) (details entry))) := by
  refine .reported fun finding among => ?_
  obtain ⟨entry, _, rfl⟩ := List.mem_map.mp among
  exact ⟨_, _, _, rfl⟩

theorem andThen {source : Except Fault Value} {next : Value → Report} (first : IsApt source)
    (second : ∀ value, IsProper context (next value)) : IsProper context (source >>= next) := by
  cases first with
  | ok value => exact second value
  | failed other => exact .failed other

end Report.IsProper

section BuiltIn

open Report.IsProper

variable (context : RuleContext) (operation : Operation) (path : String)

theorem missingParameters_isProper (message suggestion : String) (parameters : List Node) :
    (missingParameters context operation message suggestion parameters).IsProper context :=
  andThen (isApt_addParameters ..) fun _ => one ..

theorem lookForMixedStyles_isProper :
    Report.IsProper context (.ok (lookForMixedStyles context)) := by
  refine .reported fun finding among => ?_
  simp only [lookForMixedStyles] at among
  split at among
  · cases among
  · split at among
    · cases among
    · obtain ⟨path, _, among⟩ := List.mem_flatMap.mp among
      obtain ⟨entry, _, rfl⟩ := List.mem_map.mp among
      exact ⟨_, _, _, rfl⟩

theorem lookForGenericIds_isProper (pathItem : Node) :
    (lookForGenericIds context path pathItem).IsProper context := by
  unfold lookForGenericIds
  simp only
  split
  · exact nothing
  · split
    · exact andThen (isApt_ownershipFix? ..) fun _ => many ..
    · exact many ..

theorem lookForBody_isProper (message suggestion : String) :
    Report.IsProper context (.ok (lookForBody context operation message suggestion)) := by
  unfold lookForBody
  split
  · exact one ..
  · exact nothing

theorem lookForFiltering_isProper : (lookForFiltering context operation).IsProper context := by
  unfold lookForFiltering
  split
  · exact nothing
  · exact missingParameters_isProper ..

theorem lookForOrdering_isProper : (lookForOrdering context operation).IsProper context := by
  unfold lookForOrdering
  split
  · exact nothing
  · exact missingParameters_isProper ..

theorem lookForPagination_isProper : (lookForPagination context operation).IsProper context := by
  unfold lookForPagination
  split
  · exact nothing
  · exact missingParameters_isProper ..

theorem lookForIdempotencyKey_isProper :
    (lookForIdempotencyKey context operation).IsProper context := by
  unfold lookForIdempotencyKey
  split
  · exact nothing
  · exact missingParameters_isProper ..

theorem lookForCreated_isProper : (lookForCreated context operation).IsProper context := by
  unfold lookForCreated
  split
  · exact nothing
  · refine andThen (isApt_responseCodes _) fun codes => ?_
    split
    · exact nothing
    · exact one ..

theorem lookForPatch_isProper (pathItem : Node) :
    (lookForPatch context path pathItem).IsProper context := by
  unfold lookForPatch
  split
  · exact nothing
  · refine andThen (isApt_mentions ..) fun put => ?_
    split
    · exact nothing
    · refine andThen (isApt_mentions ..) fun patch => ?_
      split
      · exact nothing
      · split
        · exact andThen (isApt_proposedPatch? ..) fun _ => one ..
        · exact one ..

theorem lookForIdempotentDelete_isProper :
    (lookForIdempotentDelete context operation).IsProper context := by
  refine andThen (isApt_responseCodes _) fun codes => .reported fun finding among => ?_
  simp only [lookForBody, List.mem_append] at among
  rcases among with (among | among) | among
  all_goals
    split at among
    all_goals simp only [List.mem_singleton, List.not_mem_nil] at among
    all_goals exact ⟨_, _, _, among⟩

theorem lookForMaximum_isProper (parameter : Parameter) :
    (lookForMaximum context operation parameter).IsProper context := by
  unfold lookForMaximum
  split
  · exact nothing
  · split
    · exact nothing
    · refine andThen (isApt_resolve? ..) fun target? => ?_
      simp only
      split
      · exact nothing
      · split
        · exact nothing
        · refine andThen (isApt_schemaAddress ..) fun address? => ?_
          split
          · exact nothing
          · exact one ..

theorem lookForNextToken_isProper : (lookForNextToken context operation).IsProper context := by
  unfold lookForNextToken
  split
  · exact nothing
  · refine andThen (isApt_responseSchema? ..) fun found? => ?_
    split
    · exact nothing
    · refine andThen (isApt_mentionsAny ..) fun mentioned => ?_
      split
      · exact nothing
      · exact one ..

theorem lookForErrorSchema_isProper : (lookForErrorSchema context).IsProper context := by
  refine andThen (isApt_errorSchemaNames _) fun names => ?_
  split
  · exact nothing
  · exact one ..

theorem lookForErrorResponses_isProper :
    (lookForErrorResponses context operation).IsProper context := by
  refine andThen (isApt_responseCodes _) fun codes => ?_
  split
  · exact nothing
  · exact andThen (isApt_errorSchemaNames _) fun _ => one ..

theorem lookForOddCodes_isProper : (lookForOddCodes context operation).IsProper context :=
  andThen (isApt_responseCodes _) fun _ => many ..

end BuiltIn

/-! ## Rules -/

/-- A rule reports properly about the elements of its kind. -/
def Rule.IsProper (rule : Rule) : Prop :=
  ∀ facts element, element.kind = rule.kind →
    (rule.look facts element).IsProper ⟨facts, rule.toRuleHeader⟩

variable {rule : Rule} {facts : ReviewFacts} {element : Element}

theorem Rule.look_of_other_kind (other : element.kind ≠ rule.kind) :
    rule.look facts element =
      .error (.declared Fault.wrongRuleKindName (rule.wrongKindMessage element.kind)) := by
  unfold Rule.look
  unfold Rule.kind at other
  cases checked : rule.check <;> cases element <;> simp_all [Check.kind, Element.kind]

theorem Rule.IsProper.stamps (proper : rule.IsProper) : rule.Stamps := by
  intro facts element findings looked
  by_cases same : element.kind = rule.kind
  · have report := proper facts element same
    rw [looked] at report
    cases report with
    | reported stamped => exact stamped
  · rw [Rule.look_of_other_kind same] at looked
    cases looked

theorem Rule.IsProper.knowsItsKind (proper : rule.IsProper) : rule.KnowsItsKind := by
  intro facts element cause same looked
  have report := proper facts element same
  rw [looked] at report
  cases report with
  | failed other => exact other

theorem standard_all :
    Registry.standard.all =
      [pluralResources, noVerbs, consistentCasing, nestedOwnership, getNoBody, hasFiltering,
       hasOrdering, postReturnsCreated, patchOverPut, deleteIdempotent, idempotencyKey,
       listPaginated, maxPageSize, responseNextToken, schemaDefined, responsesDocumented,
       standardCodes] := rfl

theorem standard_isProper (listed : rule ∈ Registry.standard.all) : rule.IsProper := by
  intro facts element same
  simp only [standard_all, List.mem_cons, List.not_mem_nil, or_false] at listed
  rcases listed with rfl | rfl | rfl | rfl | rfl | rfl | rfl | rfl | rfl | rfl | rfl | rfl | rfl |
    rfl | rfl | rfl | rfl <;> cases element <;> cases same
  · exact .many ..
  · exact .many ..
  · exact lookForMixedStyles_isProper _
  · exact lookForGenericIds_isProper ..
  · exact lookForBody_isProper ..
  · exact lookForFiltering_isProper ..
  · exact lookForOrdering_isProper ..
  · exact lookForCreated_isProper ..
  · exact lookForPatch_isProper ..
  · exact lookForIdempotentDelete_isProper ..
  · exact lookForIdempotencyKey_isProper ..
  · exact lookForPagination_isProper ..
  · exact lookForMaximum_isProper ..
  · exact lookForNextToken_isProper ..
  · exact lookForErrorSchema_isProper _
  · exact lookForErrorResponses_isProper ..
  · exact lookForOddCodes_isProper ..

/-- No built-in rule reads the selection of rules or the policy for failures. -/
theorem standard_ignores (listed : rule ∈ Registry.standard.all) :
    rule.IgnoresSelection ∧ rule.IgnoresPolicy := by
  simp only [standard_all, List.mem_cons, List.not_mem_nil, or_false] at listed
  constructor
  · intro facts skipRules categories? element
    rcases listed with rfl | rfl | rfl | rfl | rfl | rfl | rfl | rfl | rfl | rfl | rfl | rfl | rfl |
      rfl | rfl | rfl | rfl <;> cases element <;> rfl
  · intro facts policy element
    rcases listed with rfl | rfl | rfl | rfl | rfl | rfl | rfl | rfl | rfl | rfl | rfl | rfl | rfl |
      rfl | rfl | rfl | rfl <;> cases element <;> rfl

/-! ## Registries -/

variable {registry : Registry}

theorem mem_orStandard (listed : rule ∈ registry.orStandard.all) :
    rule ∈ registry.all ∨ rule ∈ Registry.standard.all := by
  unfold Registry.orStandard at listed
  split at listed
  · exact .inr listed
  · exact .inl listed

theorem forall_mem_group {number : Int} {rules : List Rule} {property : Rule → Prop}
    (each : ∀ rule ∈ rules, property rule) :
    ∀ rule ∈ (Registry.mk [(number, rules)]).all, property rule := by
  intro rule listed
  rw [Registry.all, List.flatMap_singleton] at listed
  exact each rule listed

/-! ## Rules given by data -/

variable {script : Script} {header : RuleHeader} {kind : RuleKind}

/-- A rule given by data is proper, unless it is made to fail as one asked for another kind. -/
theorem scripted_isProper
    (other : ∀ name text, script.failure? = some (name, text) → name ≠ Fault.wrongRuleKindName) :
    Rule.IsProper ⟨header, script.toCheck kind⟩ := by
  have proper : ∀ context place, (script.report context place).IsProper context := by
    intro context place
    unfold Script.report
    split
    · rename_i name text failure
      exact .failed (beq_false_of_ne (other name text failure))
    · exact .many ..
  intro facts element same
  cases kind <;> cases element <;> cases same <;> exact proper ..

theorem scripted_ignores :
    (Rule.mk header (script.toCheck kind)).IgnoresSelection ∧
      (Rule.mk header (script.toCheck kind)).IgnoresPolicy := by
  constructor
  · intro facts skipRules categories? element
    cases kind <;> cases element <;> rfl
  · intro facts policy element
    cases kind <;> cases element <;> rfl

end ApiReview
