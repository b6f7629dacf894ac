import ApiReview.Proofs.Rules.Conduct
import ApiReview.Proofs.Rules.NextPageToken
import ApiReview.Proofs.Spec.SettledReads

/-! What rules make of an ordinary document. A built-in rule has something to say
on every element that is read from one, if only that there is nothing to report,
unless it follows a reference with a position of too many digits. -/

set_option autoImplicit false

namespace ApiReview

open ApiReview.Text Rules

/-- An element as it is read from a document. -/
inductive Element.IsFrom (document : Node) : Element → Prop where
  | spec : IsFrom document .spec
  | path (path : String) {item : Members} :
      document.Contains (.object item) → IsFrom document (.path path (.object item))
  | operation {operation : Operation} : operation.IsFrom document → IsFrom document (.operation operation)
  | parameter (operation : Operation) {parameter : Parameter} :
      parameter.IsFrom document → IsFrom document (.parameter operation parameter)
  | schema (name : String) (schema : Node) : IsFrom document (.schema name schema)
  | property (schemaName name : String) (property : Node) :
      IsFrom document (.property schemaName name property)

/-! ## Reads of rules -/

section Reads

variable {facts : ReviewFacts} {members : Members}
  (ordinary : facts.document.isOrdinary = true)

include ordinary

theorem key_of_mem_sharedSchemas {key : Key} {value : Node}
    (among : (key, value) ∈ sharedSchemas facts.spec) : ∃ name, key = .str name := by
  unfold sharedSchemas at among
  have listed : "components" ∈ sectionNames := by decide
  obtain ⟨components, shape, held⟩ := contains_of_section ordinary .whole listed
  rw [shape] at among
  cases read : ((Node.object components).get? "schemas").bind Node.members? with
  | none =>
      rw [read] at among
      cases among
  | some schemas =>
      rw [read] at among
      have kept : facts.document.Keeps ((Node.object components).get? "schemas") :=
        fun found same => held _ _ (Members.mem_of_lookup same)
      exact Node.key_of_contains ordinary (kept.members? read) among

theorem answers_errorSchemaNames : facts.document.Answers (errorSchemaNames facts) := by
  refine (settles_mapM fun member among => (show facts.document.Answers _ from ?_)).bind
    fun _ _ => .ok trivial
  obtain ⟨key, value⟩ := member
  obtain ⟨name, rfl⟩ := key_of_mem_sharedSchemas ordinary among
  exact .ok trivial

theorem answers_idDefinitions? (list : String) (position : Nat) {items : List Node}
    (inside : ∀ definition, .object definition ∈ items →
      facts.document.Contains (.object definition)) :
    facts.document.Answers (idDefinitions? facts.document list position items) := by
  induction items generalizing position with
  | nil => exact .ok trivial
  | cons item items ih =>
      have later := fun position => ih position fun definition among =>
        inside definition (List.mem_cons_of_mem _ among)
      cases item with
      | object members =>
          unfold idDefinitions?
          split
          · refine (settles_resolve? ordinary referenceLimit
              (inside members List.mem_cons_self)).bind fun target? _ => ?_
            dsimp only
            split
            · exact .ok trivial
            · exact later _
          · refine (later _).bind fun more? _ => ?_
            split <;> exact .ok trivial
      | _ => exact later _

theorem answers_allIdDefinitions? (path : String) {levels : List (Option String × Members)}
    (inside : ∀ level ∈ levels, facts.document.Contains (.object level.2)) :
    facts.document.Answers (allIdDefinitions? facts.document path levels) := by
  induction levels with
  | nil => exact .ok trivial
  | cons level levels ih =>
      have own := inside level List.mem_cons_self
      refine (settles_parameterItems ordinary own).bind fun items within => ?_
      refine (answers_idDefinitions? ordinary _ 0 within).bind fun definitions? _ => ?_
      cases definitions? with
      | none => exact .ok trivial
      | some definitions =>
          exact (ih fun level among => inside level (List.mem_cons_of_mem _ among)).bind
            fun _ _ => .ok trivial

omit ordinary in
theorem contains_of_mem_parameterLevels {level : Option String × Members}
    (inside : facts.document.Contains (.object members)) (listed : level ∈ parameterLevels members) :
    facts.document.Contains (.object level.2) := by
  rcases List.mem_cons.mp listed with rfl | listed
  · exact inside
  · obtain ⟨⟨key, value⟩, among, made⟩ := List.mem_filterMap.mp listed
    cases key with
    | str method =>
        cases value with
        | object operation =>
            dsimp only at made
            split at made
            · cases made
              exact inside.member among
            · cases made
        | _ => cases made
    | _ => cases made

theorem answers_ownershipFix? (path : String) (position : Nat) (newName : String)
    (inside : facts.document.Contains (.object members)) :
    facts.document.Answers (ownershipFix? facts path (.object members) position newName) := by
  unfold ownershipFix?
  split
  · exact .ok trivial
  · refine (answers_allIdDefinitions? ordinary _ fun level =>
      contains_of_mem_parameterLevels inside).bind fun _ _ => .ok trivial

theorem schemaAddress_of_isOrdinary (parameter : Parameter)
    (inside : facts.document.Contains (.object members)) :
    ∃ address?, schemaAddress parameter members = .ok address? := by
  unfold schemaAddress
  split
  · rename_i reference read
    obtain ⟨text, rfl, -⟩ := Node.reference_of_contains ordinary inside read
    exact ⟨_, rfl⟩
  · exact ⟨_, rfl⟩

end Reads

/-! ## Looks -/

section Looks

variable {context : RuleContext} {operation : Operation}
  (ordinary : context.facts.document.isOrdinary = true)

omit ordinary in
theorem missingParameters_of_suggested (message suggestion : String) {parameters : List Node}
    (listed : parameters ∈ [[filterParameter], [orderParameter], pageParameters,
      [idempotencyParameter]]) :
    ∃ found, missingParameters context operation message suggestion parameters = .ok found := by
  simp only [List.mem_cons, List.not_mem_nil, or_false] at listed
  rcases listed with rfl | rfl | rfl | rfl <;> exact ⟨_, rfl⟩

omit ordinary in
theorem ok_unless {quiet : Bool} {report : Report} (made : ∃ found, report = .ok found) :
    ∃ found, (if quiet then .ok [] else report) = .ok found := by
  split
  · exact ⟨[], rfl⟩
  · exact made

include ordinary

theorem answers_lookForGenericIds (path : String) {pathItem : Members}
    (inside : context.facts.document.Contains (.object pathItem)) :
    context.facts.document.Answers (lookForGenericIds context path (.object pathItem)) := by
  unfold lookForGenericIds
  dsimp only
  split
  · exact .ok trivial
  · split
    · exact (answers_ownershipFix? ordinary _ _ _ inside).bind fun _ _ => .ok trivial
    · exact .ok trivial

omit ordinary in
theorem lookForPatch_ok (path : String) (pathItem : Members) :
    ∃ found, lookForPatch context path (.object pathItem) = .ok found := by
  unfold lookForPatch
  simp only [Node.mentions, proposedPatch?, bind, Except.bind]
  repeat' split
  all_goals exact ⟨_, rfl⟩

theorem answers_lookForCreated (read : operation.IsFrom context.facts.document) :
    context.facts.document.Answers (lookForCreated context operation) := by
  unfold lookForCreated
  split
  · exact .ok trivial
  · refine (settles_responseCodes ordinary read).bind fun codes _ => ?_
    split <;> exact .ok trivial

theorem answers_lookForIdempotentDelete (read : operation.IsFrom context.facts.document) :
    context.facts.document.Answers (lookForIdempotentDelete context operation) :=
  (settles_responseCodes ordinary read).bind fun _ _ => .ok trivial

theorem answers_lookForOddCodes (read : operation.IsFrom context.facts.document) :
    context.facts.document.Answers (lookForOddCodes context operation) :=
  (settles_responseCodes ordinary read).bind fun _ _ => .ok trivial

theorem answers_lookForErrorResponses (read : operation.IsFrom context.facts.document) :
    context.facts.document.Answers (lookForErrorResponses context operation) := by
  refine (settles_responseCodes ordinary read).bind fun codes _ => ?_
  split
  · exact .ok trivial
  · exact (answers_errorSchemaNames ordinary).bind fun _ _ => .ok trivial

theorem answers_lookForErrorSchema :
    context.facts.document.Answers (lookForErrorSchema context) := by
  refine (answers_errorSchemaNames ordinary).bind fun names _ => ?_
  split <;> exact .ok trivial

theorem answers_lookForMaximum {parameter : Parameter}
    (read : parameter.IsFrom context.facts.document) :
    context.facts.document.Answers (lookForMaximum context operation parameter) := by
  unfold lookForMaximum
  split
  · exact .ok trivial
  · rename_i declared held
    split
    · exact .ok trivial
    · have schema : context.facts.document.Keeps (Members.get? parameter.definition "schema") :=
        fun found same => read.definition.get? same
      have inside := schema.members? held
      refine (settles_resolve? ordinary referenceLimit inside).bind fun target? _ => ?_
      dsimp only
      split
      · exact .ok trivial
      · split
        · exact .ok trivial
        · refine (settles_of_ok (schemaAddress_of_isOrdinary ordinary parameter inside)).bind
            fun address? _ => ?_
          split <;> exact .ok trivial

theorem answers_lookForNextToken (read : operation.IsFrom context.facts.document) :
    context.facts.document.Answers (lookForNextToken context operation) := by
  unfold lookForNextToken
  split
  · exact .ok trivial
  · have readable : Integer.ofFewDigits? "200".toList ≠ none := by decide
    refine (settles_responseSchema? ordinary readable read).bind fun found? kept => ?_
    cases found? with
    | none => exact .ok trivial
    | some found =>
        obtain ⟨schema, address⟩ := found
        have listed : "properties" ∈ sectionNames := by decide
        obtain ⟨properties, shape, -⟩ := contains_of_section ordinary (kept _ rfl) listed
        simp only [shape]
        refine (settles_of_ok ⟨_, mentionsAny_object properties _⟩).bind fun mentioned _ => ?_
        split <;> exact .ok trivial

end Looks

/-- A built-in rule has something to say on each element of its kind. -/
theorem answers_look {rule : Rule} (listed : rule ∈ Registry.standard.all) {facts : ReviewFacts}
    (ordinary : facts.document.isOrdinary = true) {element : Element}
    (own : element.kind = rule.kind) (read : element.IsFrom facts.document) :
    facts.document.Answers (rule.look facts element) := by
  have context_ordinary : (RuleContext.mk facts rule.toRuleHeader).facts.document.isOrdinary = true :=
    ordinary
  simp only [standard_all, List.mem_cons, List.not_mem_nil, or_false] at listed
  rcases listed with rfl | rfl | rfl | rfl | rfl | rfl | rfl | rfl | rfl | rfl | rfl | rfl | rfl |
    rfl | rfl | rfl | rfl <;> cases read <;> cases own
  · exact .ok trivial
  · exact .ok trivial
  · exact .ok trivial
  · exact answers_lookForGenericIds context_ordinary _ ‹_›
  · exact .ok trivial
  · exact settles_of_ok (ok_unless (missingParameters_of_suggested _ _ (by simp)))
  · exact settles_of_ok (ok_unless (missingParameters_of_suggested _ _ (by simp)))
  · exact answers_lookForCreated context_ordinary ‹_›
  · exact settles_of_ok (lookForPatch_ok ..)
  · exact answers_lookForIdempotentDelete context_ordinary ‹_›
  · exact settles_of_ok (ok_unless (missingParameters_of_suggested _ _ (by simp)))
  · exact settles_of_ok (ok_unless (missingParameters_of_suggested _ _ (by simp)))
  · exact answers_lookForMaximum context_ordinary ‹_›
  · exact answers_lookForNextToken context_ordinary ‹_›
  · exact answers_lookForErrorSchema context_ordinary
  · exact answers_lookForErrorResponses context_ordinary ‹_›
  · exact answers_lookForOddCodes context_ordinary ‹_›

end ApiReview
