import ApiReview.Proofs.Node.Ordinary
import ApiReview.Proofs.Outcome
import ApiReview.Proofs.Spec.ResponseSchemas
import ApiReview.Path.Singleton

/-! What is read from an ordinary document. Every reading of its structure has a
result, which lies in the document again, unless it comes to a reference with a
position of too many digits. -/

set_option autoImplicit false

namespace ApiReview

open ApiReview.Text

/-! ## Computations that settle -/

/-- A computation has a good result, or fails for an excused cause. -/
inductive Settles {Failure Value : Type} (excused : Failure → Prop) (good : Value → Prop) :
    Except Failure Value → Prop where
  | ok {value : Value} : good value → Settles excused good (.ok value)
  | failed {cause : Failure} : excused cause → Settles excused good (.error cause)

section Settles

variable {Failure Value Result : Type} {excused : Failure → Prop} {good : Value → Prop}
  {better : Result → Prop} {source : Except Failure Value}

theorem Settles.bind {next : Value → Except Failure Result} (first : Settles excused good source)
    (second : ∀ value, good value → Settles excused better (next value)) :
    Settles excused better (source >>= next) := by
  cases first with
  | ok here => exact second _ here
  | failed cause => exact .failed cause

theorem settles_mapM {step : Value → Except Failure Result} {values : List Value}
    (steps : ∀ value ∈ values, Settles excused better (step value)) :
    Settles excused (fun results => ∀ result ∈ results, better result) (values.mapM step) := by
  induction values with
  | nil => exact .ok fun _ among => nomatch among
  | cons value rest ih =>
      rw [List.mapM_cons]
      refine (steps value List.mem_cons_self).bind fun first here => ?_
      refine (ih fun value among => steps value (List.mem_cons_of_mem _ among)).bind
        fun results behind => .ok fun result among => ?_
      rcases List.mem_cons.mp among with rfl | among
      · exact here
      · exact behind result among

theorem settles_foldlM {step : Result → Value → Except Failure Result} {values : List Value}
    {start : Result} (begun : better start)
    (steps : ∀ value ∈ values, ∀ state, better state → Settles excused better (step state value)) :
    Settles excused better (values.foldlM step start) := by
  induction values generalizing start with
  | nil => exact .ok begun
  | cons value rest ih =>
      rw [List.foldlM_cons]
      exact (steps value List.mem_cons_self start begun).bind fun state kept =>
        ih kept fun value among => steps value (List.mem_cons_of_mem _ among)

theorem Settles.mapError {Other : Type} {change : Failure → Other} {allowed : Other → Prop}
    (settled : Settles excused good source) (changed : ∀ cause, excused cause → allowed (change cause)) :
    Settles allowed good (source.mapError change) := by
  cases settled with
  | ok here => exact .ok here
  | failed cause => exact .failed (changed _ cause)

theorem settles_of_ok (made : ∃ value, source = .ok value) : Settles excused (fun _ => True) source := by
  obtain ⟨value, rfl⟩ := made
  exact .ok trivial

end Settles

/-- A document excuses the failure of a reading when it has an overlong reference. -/
def Node.Excuses (document : Node) (cause : Fault) : Prop :=
  cause = .badValue ∧ document.hasOverlongReference = true

/-- A computation over a document has a result, unless its failure is excused. -/
abbrev Node.Answers (document : Node) {Value : Type} (source : Except Fault Value) : Prop :=
  Settles document.Excuses (fun _ => True) source

/-- Whatever was found lies in the document. -/
def Node.Keeps (document : Node) (found? : Option Node) : Prop :=
  ∀ found, found? = some found → document.Contains found

theorem Node.Keeps.members? {document : Node} {found? : Option Node} {members : Members}
    (kept : document.Keeps found?) (shape : found?.bind Node.members? = some members) :
    document.Contains (.object members) := by
  obtain ⟨found, rfl, shape⟩ := Option.bind_eq_some_iff.mp shape
  cases found with
  | object _ =>
      cases shape
      exact kept _ rfl
  | _ => cases shape

/-! ## References -/

section References

variable {document node : Node} {members : Members}

theorem settles_none : Settles document.Excuses document.Keeps (.ok none) :=
  .ok fun node found => by cases found

theorem settles_descend? {names : List String} (inside : document.Contains node)
    (tokens : ∀ token ∈ names, isIndexToken token = true →
      Integer.ofFewDigits? token.toList = none → document.hasOverlongReference = true) :
    Settles document.Excuses document.Keeps (descend? names node) := by
  induction names generalizing node with
  | nil => exact .ok fun target same => Option.some.inj same ▸ inside
  | cons name rest ih =>
      have behind : ∀ token ∈ rest, isIndexToken token = true →
          Integer.ofFewDigits? token.toList = none → document.hasOverlongReference = true :=
        fun token among => tokens token (List.mem_cons_of_mem _ among)
      cases node with
      | object members =>
          rw [descend?]
          split
          · rename_i read
            exact ih (inside.get? read) behind
          · exact settles_none
      | list items =>
          rw [descend?]
          split
          · rename_i index
            split
            · split
              · rename_i found
                exact ih (inside.item (List.mem_of_getElem? found)) behind
              · exact settles_none
            · rename_i unread
              exact .failed ⟨rfl, tokens name List.mem_cons_self index unread⟩
          · exact settles_none
      | _ => exact settles_none

variable (ordinary : document.isOrdinary = true)

include ordinary

theorem settles_follow? {reference : String} (inside : document.Contains (.object members))
    (read : Members.get? members "$ref" = some (.str reference)) :
    Settles document.Excuses document.Keeps (follow? document reference) := by
  obtain ⟨_, same, ascii⟩ := Node.reference_of_contains ordinary inside read
  cases same
  unfold follow?
  split
  · rename_i names split
    exact settles_descend? .whole fun token among index unread =>
      List.any_eq_true.mpr ⟨reference, Node.mem_references inside read,
        isOverlong_of_unread ascii split among index unread⟩
  · exact .ok nofun

theorem settles_resolve? (limit : Nat) (inside : document.Contains node) :
    Settles document.Excuses document.Keeps (resolve? document limit node) := by
  induction limit generalizing node with
  | zero => exact .ok nofun
  | succ limit ih =>
      unfold resolve?
      split
      · exact .ok fun target same => Option.some.inj same ▸ inside
      · rename_i reference read
        cases node with
        | object members =>
            refine (settles_follow? ordinary inside read).bind fun target? within => ?_
            cases target? with
            | none => exact .ok nofun
            | some target => exact ih (within target rfl)
        | _ => cases read
      · exact .ok nofun

theorem settles_resolveWithAddress (address : String) (inside : document.Contains node) :
    Settles document.Excuses
      (fun found? => ∀ found, found? = some found → document.Contains (.object found.1))
      (resolveWithAddress document node address) := by
  unfold resolveWithAddress
  split
  · cases node with
    | object members => exact .ok fun found same => Option.some.inj same ▸ inside
    | _ => exact .ok nofun
  · rename_i reference read
    cases node with
    | object members =>
        obtain ⟨text, rfl, -⟩ := Node.reference_of_contains ordinary inside read
        refine (settles_resolve? ordinary referenceLimit inside).bind fun target? kept => ?_
        split
        · rename_i shape _
          exact .ok fun found same => Option.some.inj same ▸ kept.members? shape
        · exact .ok nofun
    | _ => cases read

end References

/-! ## Parameters -/

/-- A parameter as it is read from a document: its definition lies there and its location is a
scalar. -/
structure Parameter.IsFrom (parameter : Parameter) (document : Node) : Prop where
  definition : document.Contains (.object parameter.definition)
  location : (parameter.location.isList || parameter.location.isObject) = false

/-- An operation as it is read from a document. -/
structure Operation.IsFrom (operation : Operation) (document : Node) : Prop where
  definition : document.Contains (.object operation.definition)
  parameters : ∀ parameter ∈ operation.parameters, parameter.IsFrom document

section Parameters

variable {document : Node} {members : Members} (ordinary : document.isOrdinary = true)

include ordinary

/-- The items of an optional parameter list lie in the document as far as they are objects. -/
theorem settles_parameterItems (inside : document.Contains (.object members)) :
    Settles document.Excuses
      (fun items => ∀ definition, .object definition ∈ items → document.Contains (.object definition))
      (parameterItems members) := by
  unfold parameterItems
  split
  · rename_i value read
    split
    · have kind := Node.list_of_contains ordinary inside read
      cases value with
      | list items => exact .ok fun definition among => (inside.get? read).item among
      | object fields =>
          -- a walk over an object meets its keys, and none of them is an object
          refine .ok fun definition among => ?_
          obtain ⟨⟨key, value⟩, -, shape⟩ := List.mem_map.mp among
          cases key <;> cases shape
      | null =>
          rename_i filled
          cases filled
      | _ => cases kind
    · exact .ok fun definition among => absurd among List.not_mem_nil
  · exact .ok fun definition among => absurd among List.not_mem_nil

theorem settles_parameter? (path : String) (method? : Option String) {item : Node}
    (inside : ∀ definition, item = .object definition → document.Contains item) :
    Settles document.Excuses
      (fun parameter? => ∀ parameter, parameter? = some parameter → parameter.IsFrom document)
      (parameter? document path method? item) := by
  unfold parameter?
  split
  · rename_i members
    refine (settles_resolve? ordinary referenceLimit (inside members rfl)).bind
      fun target? kept => ?_
    dsimp only
    split
    · exact .ok nofun
    · rename_i definition shape
      split
      · exact .ok nofun
      · refine .ok fun parameter made => ?_
        cases made
        refine ⟨kept.members? shape, ?_⟩
        cases read : Members.get? definition "in" with
        | none => rfl
        | some location => exact Node.scalar_of_contains ordinary (kept.members? shape) read
  · exact .ok nofun

omit ordinary in
theorem isFrom_putParameter {parameters : List Parameter} {parameter : Parameter}
    (read : ∀ present ∈ parameters, present.IsFrom document) (added : parameter.IsFrom document) :
    ∀ present ∈ putParameter parameters parameter, present.IsFrom document := by
  unfold putParameter
  split
  · intro present among
    obtain ⟨before, listed, rfl⟩ := List.mem_map.mp among
    split
    · exact added
    · exact read before listed
  · intro present among
    rcases List.mem_append.mp among with before | last
    · exact read present before
    · exact List.mem_singleton.mp last ▸ added

theorem settles_addParameters (path : String) (method? : Option String)
    {parameters : List Parameter} {items : List Node}
    (read : ∀ parameter ∈ parameters, parameter.IsFrom document)
    (inside : ∀ definition, .object definition ∈ items → document.Contains (.object definition)) :
    Settles document.Excuses (fun parameters => ∀ parameter ∈ parameters, parameter.IsFrom document)
      (addParameters document path method? parameters items) := by
  refine settles_foldlM read fun item among parameters read => ?_
  refine (settles_parameter? ordinary path method? fun definition same => ?_).bind
    fun parameter? added => ?_
  · exact same ▸ inside definition (same ▸ among)
  · cases parameter? with
    | none => exact .ok read
    | some parameter =>
        have own := added parameter rfl
        have scalar := own.location
        dsimp only
        split
        · rename_i shape
          rw [shape] at scalar
          cases scalar
        · rename_i shape
          rw [shape] at scalar
          cases scalar
        · exact .ok (isFrom_putParameter read own)

theorem settles_parametersOf (path : String) {pathItem : Members} (method : String)
    {operation : Members} (shared : document.Contains (.object pathItem))
    (own : document.Contains (.object operation)) :
    Settles document.Excuses (fun parameters => ∀ parameter ∈ parameters, parameter.IsFrom document)
      (parametersOf document path pathItem method operation) := by
  refine (settles_parameterItems ordinary shared).bind fun sharedItems sharedInside => ?_
  refine (settles_addParameters ordinary path none (by simp) sharedInside).bind
    fun parameters read => ?_
  refine (settles_parameterItems ordinary own).bind fun items inside => ?_
  exact settles_addParameters ordinary path (some method) read inside

end Parameters

/-! ## Operations -/

section Operations

variable {document : Node} (ordinary : document.isOrdinary = true)

include ordinary

theorem settles_operationsOfItem (path : String) {pathItem : Members}
    (inside : document.Contains (.object pathItem)) :
    Settles document.Excuses (fun operations => ∀ operation ∈ operations, operation.IsFrom document)
      (operationsOfItem document path pathItem) := by
  let read (found? : Option Operation) : Prop :=
    ∀ operation, found? = some operation → operation.IsFrom document
  refine (settles_mapM fun member among => (show Settles document.Excuses read _ from ?_)).bind
    fun found kept => .ok fun operation listed => ?_
  · obtain ⟨key, value⟩ := member
    obtain ⟨method, rfl⟩ := Node.key_of_contains ordinary inside among
    dsimp only
    split
    · split
      · rename_i definition _
        have own := inside.member among
        refine (settles_parametersOf ordinary path _ inside own).bind fun parameters read => ?_
        refine .ok fun operation made => ?_
        cases made
        exact ⟨own, read⟩
      · exact .ok nofun
    · exact .ok nofun
  · obtain ⟨found?, among, same⟩ := List.mem_filterMap.mp listed
    exact kept found? among operation same

omit ordinary in
theorem contains_of_mem_pathItems {root : Members} (rooted : document = .object root)
    {key : Key} {value : Node} (among : (key, value) ∈ pathItems root) : document.Contains value := by
  subst rooted
  unfold pathItems at among
  cases read : (Members.get? root "paths").bind Node.members? with
  | none =>
      rw [read] at among
      cases among
  | some paths =>
      rw [read] at among
      have inside : Node.Keeps (.object root) (Members.get? root "paths") :=
        fun found same => Node.Contains.whole.get? same
      exact (inside.members? read).member among

theorem settles_operationsOf {root : Members} (rooted : document = .object root) :
    Settles document.Excuses (fun operations => ∀ operation ∈ operations, operation.IsFrom document)
      (operationsOf document) := by
  let read (operations : List Operation) : Prop :=
    ∀ operation ∈ operations, operation.IsFrom document
  have made : Settles document.Excuses (fun members => members = root) document.asObject := by
    subst rooted
    exact .ok rfl
  refine made.bind fun members same => ?_
  subst same
  refine (settles_mapM fun member among => (show Settles document.Excuses read _ from ?_)).bind
    fun groups kept => .ok fun operation listed => ?_
  · obtain ⟨key, value⟩ := member
    dsimp only
    split
    · exact settles_operationsOfItem ordinary _ (contains_of_mem_pathItems rooted among)
    · exact .ok fun _ among => nomatch among
  · obtain ⟨group, among, listed⟩ := List.mem_flatten.mp listed
    exact kept group among operation listed

omit ordinary in
theorem names?_of_named {members : Members}
    (named : ∀ key value, (key, value) ∈ members → ∃ name, key = .str name) :
    ∃ names, Members.names? members = some names := by
  induction members with
  | nil => exact ⟨[], rfl⟩
  | cons first rest ih =>
      obtain ⟨key, value⟩ := first
      obtain ⟨name, rfl⟩ := named key value List.mem_cons_self
      obtain ⟨names, read⟩ := ih fun key value among =>
        named key value (List.mem_cons_of_mem _ among)
      refine ⟨name :: names, ?_⟩
      rw [Members.names?] at read ⊢
      rw [List.mapM_cons, read]
      rfl

theorem singletons_of_isOrdinary {root : Members} (rooted : document = .object root) :
    ∃ singletons, document.singletons = .ok singletons := by
  subst rooted
  have listed : "paths" ∈ sectionNames := by decide
  obtain ⟨paths, shape, held⟩ := Node.section_of_contains ordinary .whole listed
  have named : ∃ names, Members.names? paths = some names := by
    rcases held with rfl | read
    · exact ⟨[], rfl⟩
    · exact names?_of_named fun key value among =>
        Node.key_of_contains ordinary (Node.Contains.whole.get? read) among
  obtain ⟨names, same⟩ := named
  rw [Node.singletons]
  simp only [Node.asObject, bind, Except.bind, shape, same]
  exact ⟨_, rfl⟩

end Operations

/-! ## Responses -/

section Responses

variable {document : Node} {members : Members} {operation : Operation}
  (ordinary : document.isOrdinary = true)

include ordinary

/-- The members of an optional part lie in the document. -/
theorem contains_of_section {name : String} (inside : document.Contains (.object members))
    (listed : name ∈ sectionNames) :
    ∃ part, Node.optional (Members.get? members name) = .object part ∧
      ∀ key value, (key, value) ∈ part → document.Contains value := by
  obtain ⟨part, shape, rfl | read⟩ := Node.section_of_contains ordinary inside listed
  · exact ⟨[], shape, fun _ _ among => nomatch among⟩
  · exact ⟨part, shape, fun _ _ among => (inside.get? read).member among⟩

theorem settles_responseCodes (read : operation.IsFrom document) :
    document.Answers operation.responseCodes := by
  have listed : "responses" ∈ sectionNames := by decide
  obtain ⟨part, shape, -⟩ := contains_of_section ordinary read.definition listed
  rw [Operation.responseCodes, shape]
  exact .ok trivial

theorem settles_response? {code : String} (readable : Integer.ofFewDigits? code.toList ≠ none)
    (inside : document.Contains (.object members)) :
    Settles document.Excuses document.Keeps
      (response? (Node.optional (Members.get? members "responses")) code) := by
  have listed : "responses" ∈ sectionNames := by decide
  obtain ⟨part, shape, kept⟩ := contains_of_section ordinary inside listed
  rw [shape, response?]
  simp only [Node.mentions, Node.asObject, bind, Except.bind]
  split
  · exact .ok fun found same => kept _ _ (Members.mem_of_lookup same)
  · split
    · split
      · refine .ok fun found same => ?_
        obtain ⟨⟨key, value⟩, among, rfl⟩ := Option.map_eq_some_iff.mp same
        exact kept key value (List.mem_of_find?_eq_some among)
      · rename_i unread
        exact absurd unread readable
    · exact settles_none

/-- What a response holds under a media type is an object, or counts as an empty one. -/
theorem settles_media {part : Members} (inside : document.Contains (.object members))
    (held : part = [] ∨ Members.get? members "content" = some (.object part)) (mediaType : Node) :
    Settles document.Excuses
      (fun media => ∀ key value, (key, value) ∈ media → document.Contains value)
      (Node.optional (contentOf part mediaType)).asObject := by
  have section_of_media : ∀ value, contentOf part mediaType = some value →
      value.isSection = true ∧ document.Contains value := by
    intro value found
    obtain ⟨⟨key, _⟩, picked, rfl⟩ := Option.map_eq_some_iff.mp found
    have among := List.mem_of_find?_eq_some picked
    rcases held with rfl | read
    · cases among
    · exact ⟨Node.media_of_contains ordinary inside read among, (inside.get? read).member among⟩
  obtain ⟨media, shape, rfl | found⟩ :=
    Node.optional_of_isSection fun value found => (section_of_media value found).1
  · rw [shape]
    exact .ok fun _ _ among => nomatch among
  · rw [shape]
    exact .ok fun _ _ among => (section_of_media _ found).2.member among

theorem settles_responseSchema? {code : String}
    (readable : Integer.ofFewDigits? code.toList ≠ none) (read : operation.IsFrom document) :
    Settles document.Excuses
      (fun found? => ∀ found, found? = some found → document.Contains (.object found.1))
      (responseSchema? document operation code) := by
  refine (settles_response? ordinary readable read.definition).bind fun response? kept => ?_
  cases response? with
  | none => exact .ok nofun
  | some response =>
      refine (settles_resolveWithAddress ordinary _ (kept response rfl)).bind
        fun resolved? resolved => ?_
      cases resolved? with
      | none => exact .ok nofun
      | some found =>
          obtain ⟨definition, address⟩ := found
          have inside := resolved _ rfl
          have listed : "content" ∈ sectionNames := by decide
          obtain ⟨part, shape, held⟩ := Node.section_of_contains ordinary inside listed
          simp only [shape]
          refine (settles_of_ok ⟨_, mediaType?_object part⟩).bind fun mediaType? _ => ?_
          cases mediaType? with
          | none => exact .ok nofun
          | some mediaType =>
              have whole : Settles document.Excuses (fun content => content = part)
                  (Node.object part).asObject := .ok rfl
              refine whole.bind fun content same => ?_
              subst same
              refine (settles_media ordinary inside held mediaType).bind fun media within => ?_
              split
              · exact .ok nofun
              · rename_i schema found
                exact settles_resolveWithAddress ordinary _
                  (within _ schema (Members.mem_of_lookup found))

end Responses
end ApiReview
