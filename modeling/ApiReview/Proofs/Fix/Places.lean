import ApiReview.Proofs.Address.Filtered
import ApiReview.Proofs.Fix.Targets
import ApiReview.Proofs.Patch.Items
import ApiReview.Proofs.Spec.ReferenceAddresses

/-! Where the changes of fixes lead. Most addresses name members only and mean the
same way in every document. The address of what stands below the schema of a parameter
goes through a filter, and still leads to its place once a value is there. -/

set_option autoImplicit false

namespace ApiReview

open ApiReview.Address ApiReview.Text

variable {key path text : String} {names : List String} {steps more : List WrittenStep}
  {document : Node} {way : List Part}

namespace Address

/-- What an address leads to lies behind a part that exists, through names; and once a value is
there, the address still leads to it. -/
def StaysPut (text : String) : Prop :=
  ∀ document way, document.isNamed = true → locate document text = .ok way →
    (∃ anchor base, ∃ names : List String, names ≠ [] ∧ document.at? anchor = some base ∧
      way = anchor ++ names.map .name) ∧
    (document.isOpen way = true → ∀ value,
      locate (Node.graft value way document) text = .ok way)

/-- An address that leads somewhere has no reserved word. -/
theorem IsWritten.read_of_located (written : IsWritten text steps)
    (plain : ∀ step ∈ steps, step.isPlain = true) (located : locate document text = .ok way) :
    ofText text = .ok (steps.map WrittenStep.selector) ∧
      ∀ step ∈ steps, step.isReserved = false := by
  by_cases reserved : ∃ step ∈ steps, step.isReserved = true
  · obtain ⟨selectors, read, -⟩ := bind_ok located
    rw [ofText_reserved written plain reserved] at read
    cases read
  · have free : ∀ step ∈ steps, step.isReserved = false := fun step among =>
      Bool.eq_false_iff.mpr fun bad => reserved ⟨step, among, bad⟩
    exact ⟨ofText_written written plain free, free⟩

/-- An address of members stays put. -/
theorem staysPut_of_members (written : IsWritten text steps)
    (plain : ∀ step ∈ steps, step.isPlain = true)
    (selects : steps.map WrittenStep.selector = names.map memberSelector) (nonempty : names ≠ []) :
    StaysPut text := by
  intro document way _ located
  obtain ⟨-, free⟩ := written.read_of_located plain located
  have leads := written.locate_eq selects plain free
  cases (leads document).symm.trans located
  exact ⟨⟨[], document, names, nonempty, rfl, rfl⟩, fun _ _ => leads _⟩

theorem IsWritten.item (written : IsWritten text steps) (index : Nat) :
    IsWritten (text ++ Address.item index) (steps ++ [.item index]) := by
  rw [IsWritten, String.toList_append, written]
  simp [writtenText, WrittenStep.text]

/-! ## Parts of operations -/

theorem isMethodKey_isEmpty (method : isMethodKey key = true) : key.isEmpty = false := by
  rw [String.isEmpty_eq_false_iff]
  rintro rfl
  revert method
  decide

/-! ## Parameter lists -/

/-- The way to the parameter list of an operation, or of a path without a method. -/
def parameterListNames (path : String) (method? : Option String) : List String :=
  "paths" :: path :: ((method?.map lower).toList ++ ["parameters"])

def parameterListSteps (path : String) (method? : Option String) : List WrittenStep :=
  .bare "paths" :: .quoted path ::
    ((method?.map fun method => .bare (lower method)).toList ++ [.bare "parameters"])

section ParameterLists

variable {method? : Option String} (methods : ∀ method ∈ method?, isMethodKey method = true)

theorem selector_parameterListSteps (path : String) (method? : Option String) :
    (parameterListSteps path method?).map WrittenStep.selector =
      (parameterListNames path method?).map memberSelector := by
  cases method? <;> rfl

include methods

theorem isWritten_parameterList (path : String) :
    IsWritten (ofParameters path method?) (parameterListSteps path method?) := by
  cases method? with
  | none => exact (isWritten_ofPath path).bare rfl
  | some method => exact isWritten_ofParameters (isMethodKey_isEmpty (methods method rfl)) path

theorem words_parameterList (path : String) :
    ∀ step ∈ parameterListSteps path method?, step.isPlain = true ∧ step.isReserved = false := by
  cases method? with
  | none =>
      intro step among
      simp only [parameterListSteps, Option.map_none, Option.toList_none, List.nil_append,
        List.mem_cons, List.not_mem_nil, or_false] at among
      rcases among with rfl | rfl | rfl
      · exact ⟨by decide, by decide⟩
      · exact ⟨rfl, rfl⟩
      · exact ⟨by decide, by decide⟩
  | some method =>
      exact words_ofOperation (methods method rfl) path [.bare "parameters"] (by decide)

/-- The address of the name of a definition in a list. -/
theorem locate_definitionName (path : String) {index : Nat}
    (readable : Integer.isUnwritable (.ofNat index) = false) (document : Node) :
    locate document (ofParameters path method? ++ Address.item index ++ ".name") =
      .ok (itemWay (parameterListNames path method?) index "name") := by
  have written := ((isWritten_parameterList methods path).item index).bare
    (show (".name" : String).toList = '.' :: "name".toList from rfl)
  have words : ∀ step ∈ parameterListSteps path method? ++ [.item index] ++ [.bare "name"],
      step.isPlain = true ∧ step.isReserved = false := by
    intro step among
    rcases List.mem_append.mp among with among | among
    · rcases List.mem_append.mp among with among | among
      · exact words_parameterList methods path step among
      · cases List.mem_singleton.mp among
        exact ⟨by rw [WrittenStep.isPlain, readable]; rfl, rfl⟩
    · cases List.mem_singleton.mp among
      exact ⟨by decide, by decide⟩
  refine written.locate_parts ?_ ?_ (fun step among => (words step among).1)
    (fun step among => (words step among).2) document
  · rw [List.map_append, List.map_append, selector_parameterListSteps, map_memberSelector, itemWay,
      List.map_append, List.append_assoc]
    rfl
  · intro part among
    rcases List.mem_append.mp among with among | among
    · exact forward_names _ part among
    · simp only [List.mem_cons, List.not_mem_nil, or_false] at among
      rcases among with rfl | rfl <;> rfl

end ParameterLists

/-! ## Schemas -/

/-- The address of a schema, as the builders of addresses write it. -/
inductive IsSchemaAddress : String → Prop
  | shared (name : String) : IsSchemaAddress (ofSchema name)
  | reference {reference text : String} : ofReference reference = .ok text → IsSchemaAddress text
  | response (path code mediaType : String) {method : String} :
      isMethodKey method = true → IsSchemaAddress (ofResponseSchema path method code mediaType)
  | parameter (path name : String) (method? location? : Option String) :
      (∀ method ∈ method?, isMethodKey method = true) →
      IsSchemaAddress (ofParameter path method? name location? ++ ".schema")

section Schemas

variable {schema tail name : String} {ending : List WrittenStep} {members : List String}

theorem isWritten_ofResponseSchema (path method code mediaType : String) :
    IsWritten (ofResponseSchema path method code mediaType)
      [.bare "paths", .quoted path, .bare (lower method), .bare "responses", .quoted code,
        .bare "content", .quoted mediaType, .bare "schema"] :=
  (((isWritten_ofResponse path method code).bare rfl).quoted mediaType).bare rfl

theorem plain_of_words (words : ∀ step ∈ steps, step.isPlain = true ∧ step.isReserved = false) :
    ∀ step ∈ steps, step.isPlain = true :=
  fun step among => (words step among).1

theorem plain_append (front : ∀ step ∈ steps, step.isPlain = true)
    (behind : ∀ step ∈ more, step.isPlain = true) : ∀ step ∈ steps ++ more, step.isPlain = true :=
  fun step among => (List.mem_append.mp among).elim (front step) (behind step)

/-- A text that goes on from an address through members. -/
structure IsTail (tail : String) (ending : List WrittenStep) (members : List String) : Prop where
  written : ∀ {text steps}, IsWritten text steps → IsWritten (text ++ tail) (steps ++ ending)
  plain : ∀ step ∈ ending, step.isPlain = true
  selects : ending.map WrittenStep.selector = members.map memberSelector
  nonempty : members ≠ []

theorem isTail_bare (word : isBareWord name.toList = true) :
    IsTail ("." ++ name) [.bare name] [name] where
  written := fun written => written.bare (by simp)
  plain := by simpa [WrittenStep.isPlain] using word
  selects := rfl
  nonempty := List.cons_ne_nil _ _

theorem isTail_property (name : String) :
    IsTail (".properties" ++ member name) [.bare "properties", .quoted name]
      ["properties", name] where
  written := by
    intro text steps written
    have split : steps ++ [.bare "properties", .quoted name] =
        steps ++ [.bare "properties"] ++ [.quoted name] := by simp
    rw [← String.append_assoc, split]
    exact (written.bare rfl).quoted name
  plain := by
    intro step among
    simp only [List.mem_cons, List.not_mem_nil, or_false] at among
    rcases among with rfl | rfl
    · decide
    · rfl
  selects := rfl
  nonempty := List.cons_ne_nil _ _

/-- What stands below the schema of a parameter does not decide which parameter is meant. -/
theorem IsTail.staysPut_parameter {method? : Option String} (behind : IsTail tail ending members)
    (methods : ∀ method ∈ method?, isMethodKey method = true) (path name : String)
    (location? : Option String) :
    StaysPut (ofParameter path method? name location? ++ ".schema" ++ tail) := by
  intro document way named located
  have written := behind.written (((isWritten_parameterList methods path).parameter name
    location?).bare (show (".schema" : String).toList = '.' :: "schema".toList from rfl))
  have front : ∀ step ∈ parameterListSteps path method? ++ [.parameter name location?] ++
      [.bare "schema"], step.isPlain = true := by
    refine plain_append (plain_append (plain_of_words (words_parameterList methods path)) ?_) ?_ <;>
      intro step among <;> cases List.mem_singleton.mp among
    · rfl
    · decide
  refine ⟨?_, fun opened value => ?_⟩
  · have address : IsAddressText (ofParameter path method? name location? ++ ".schema") :=
      (IsAddressText.ofParameter (fun method among => (isPlainName_lower (methods method among)).1)
        path name location?).schema
    obtain ⟨_, ⟨anchor, base, names, reached, rfl⟩, rfl⟩ :=
      address.locate_below named (fun _ => behind.written) behind.plain behind.selects located
    exact ⟨anchor, base, names ++ members, by simp [behind.nonempty], reached, by simp⟩
  · obtain ⟨read, -⟩ := written.read_of_located (plain_append front behind.plain) located
    rw [List.map_append, List.map_append, List.map_append, behind.selects,
      selector_parameterListSteps, List.append_assoc, List.append_assoc] at read
    exact (locate_filtered_again named read (by decide) (by decide) located opened value).1

/-- An address that goes on from that of a schema through members stays put. -/
theorem IsSchemaAddress.staysPut (address : IsSchemaAddress schema)
    (behind : IsTail tail ending members) : StaysPut (schema ++ tail) := by
  have ofMembers : ∀ {steps : List WrittenStep} (names : List String), IsWritten schema steps →
      (∀ step ∈ steps, step.isPlain = true) →
      steps.map WrittenStep.selector = names.map memberSelector → StaysPut (schema ++ tail) := by
    intro steps names written plain selects
    have whole : (steps ++ ending).map WrittenStep.selector =
        (names ++ members).map memberSelector := by
      rw [List.map_append, List.map_append, selects, behind.selects]
    exact staysPut_of_members (behind.written written) (plain_append plain behind.plain) whole
      (by simp [behind.nonempty])
  cases address with
  | shared name =>
      exact ofMembers ["components", "schemas", name] (isWritten_ofSchema name)
         (plain_of_words (words_ofSchema name)) rfl
  | reference built =>
      unfold ofReference at built
      split at built
      · rename_i names named
        cases built
        exact ofMembers names (isWritten_memberSteps names) (isPlain_referenceSteps names)
          (selector_referenceSteps names)
      · cases built
  | response path code mediaType method =>
      refine ofMembers ["paths", path, _, "responses", code, "content", mediaType, "schema"]
        (isWritten_ofResponseSchema path _ code mediaType) (plain_of_words
          (words_ofOperation method path [.bare "responses", .quoted code, .bare "content",
            .quoted mediaType, .bare "schema"] ?_)) rfl
      intro step among
      simp only [List.mem_cons, List.not_mem_nil, or_false] at among
      rcases among with rfl | rfl | rfl | rfl | rfl
      · exact ⟨by decide, by decide⟩
      · exact ⟨rfl, rfl⟩
      · exact ⟨by decide, by decide⟩
      · exact ⟨rfl, rfl⟩
      · exact ⟨by decide, by decide⟩
  | parameter path name method? location? methods =>
      exact behind.staysPut_parameter methods path name location?

end Schemas

/-! ## Fixed places -/

theorem staysPut_ofResponse (method : isMethodKey key = true) (path code : String) :
    StaysPut (ofResponse path key code) := by
  have plain := plain_of_words (words_ofOperation method path [.bare "responses", .quoted code]
    (words_response code))
  have selects : [WrittenStep.bare "paths", .quoted path, .bare (lower key), .bare "responses",
      .quoted code].map WrittenStep.selector =
        ["paths", path, lower key, "responses", code].map memberSelector := rfl
  exact staysPut_of_members (isWritten_ofResponse path key code) plain selects (by simp)

theorem staysPut_ofOperation (method : isMethodKey key = true) (path : String) :
    StaysPut (ofOperation path key) := by
  have plain := plain_of_words (words_ofOperation method path [] (by simp))
  have selects : [WrittenStep.bare "paths", .quoted path, .bare (lower key)].map
      WrittenStep.selector = ["paths", path, lower key].map memberSelector := rfl
  exact staysPut_of_members (isWritten_ofOperation path key) plain selects (by simp)

theorem staysPut_ofSchema (name : String) : StaysPut (ofSchema name) := by
  have selects : [WrittenStep.bare "components", .bare "schemas", .quoted name].map
      WrittenStep.selector = ["components", "schemas", name].map memberSelector := rfl
  exact staysPut_of_members (isWritten_ofSchema name) (plain_of_words (words_ofSchema name)) selects
    (by simp)

end Address

end ApiReview
