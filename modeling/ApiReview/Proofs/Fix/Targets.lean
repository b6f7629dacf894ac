import ApiReview.Proofs.Address.Located
import ApiReview.Proofs.Spec.Operations

/-! Where the addresses of fixes lead. Those of an operation name the path as it
stands and the method in lower case, whatever the document holds there. -/

set_option autoImplicit false

namespace ApiReview.Address

open ApiReview.Text

variable {key path code name text : String} {steps : List WrittenStep} {names : List String}

/-- The fixed words of a document and the methods can be written bare. -/
theorem isPlainName_lower (method : isMethodKey key = true) :
    isPlainName (lower key).toList = true ∧ isReservedWord (lower key) = false := by
  have words : (httpMethods.all fun method =>
      isPlainName method.toList && !isReservedWord method) = true := by decide
  have both := List.all_eq_true.mp words (lower key) (List.contains_iff_mem.mp method)
  simpa using both

/-- Whether all bare steps are words of the document format or the given method. -/
theorem locate_words (written : IsWritten text steps)
    (selects : steps.map WrittenStep.selector = names.map memberSelector)
    (words : ∀ step ∈ steps, step.isPlain = true ∧ step.isReserved = false) (document : Node) :
    locate document text = .ok (names.map .name) :=
  written.locate_eq selects (fun step among => (words step among).1)
    (fun step among => (words step among).2) document

theorem words_response (code : String) :
    ∀ step ∈ [WrittenStep.bare "responses", .quoted code],
      step.isPlain = true ∧ step.isReserved = false := by
  intro step among
  simp only [List.mem_cons, List.not_mem_nil, or_false] at among
  rcases among with rfl | rfl
  · exact ⟨by decide, by decide⟩
  · exact ⟨rfl, rfl⟩

section Operations

variable (method : isMethodKey key = true) (path code : String) (document : Node)

include method

theorem words_ofOperation (more : List WrittenStep)
    (words : ∀ step ∈ more, step.isPlain = true ∧ step.isReserved = false) :
    ∀ step ∈ [.bare "paths", .quoted path, .bare (lower key)] ++ more,
      step.isPlain = true ∧ step.isReserved = false := by
  intro step among
  rcases List.mem_append.mp among with front | behind
  · simp only [List.mem_cons, List.not_mem_nil, or_false] at front
    rcases front with rfl | rfl | rfl
    · exact ⟨by decide, by decide⟩
    · exact ⟨rfl, rfl⟩
    · obtain ⟨plain, free⟩ := isPlainName_lower method
      exact ⟨isBareWord_of_isPlainName plain, free⟩
  · exact words step behind

/-- Where the address of a part of an operation leads, through the words of the document format and
names of its author. -/
theorem locate_operationPart {more : List WrittenStep}
    (written : IsWritten text ([.bare "paths", .quoted path, .bare (lower key)] ++ more))
    (selects : more.map WrittenStep.selector = names.map memberSelector)
    (words : ∀ step ∈ more, step.isPlain = true ∧ step.isReserved = false) :
    locate document text = .ok (("paths" :: path :: lower key :: names).map .name) := by
  refine locate_words written ?_ (words_ofOperation method path more words) document
  rw [List.map_append, selects]
  rfl

theorem locate_ofOperation :
    locate document (ofOperation path (upper key)) =
      .ok (["paths", path, lower key].map .name) := by
  rw [← lower_upper_of_isMethodKey method]
  have selects : ([] : List WrittenStep).map WrittenStep.selector = [].map memberSelector := rfl
  exact locate_operationPart (upper_isMethodKey method) path document
    (isWritten_ofOperation path (upper key)) selects (by simp)

theorem locate_ofParameters :
    locate document (ofParameters path (some (upper key))) =
      .ok (["paths", path, lower key, "parameters"].map .name) := by
  rw [← lower_upper_of_isMethodKey method]
  exact locate_operationPart (upper_isMethodKey method) path document
    (isWritten_ofParameters (upper_isEmpty method) path) rfl (by decide)

theorem locate_ofRequestBody :
    locate document (ofRequestBody path (upper key)) =
      .ok (["paths", path, lower key, "requestBody"].map .name) := by
  rw [← lower_upper_of_isMethodKey method]
  exact locate_operationPart (upper_isMethodKey method) path document
    (isWritten_ofRequestBody path (upper key)) rfl (by decide)

theorem locate_ofResponses :
    locate document (ofResponses path (upper key)) =
      .ok (["paths", path, lower key, "responses"].map .name) := by
  rw [← lower_upper_of_isMethodKey method]
  exact locate_operationPart (upper_isMethodKey method) path document
    (isWritten_ofResponses path (upper key)) rfl (by decide)

theorem locate_ofResponse :
    locate document (ofResponse path (upper key) code) =
      .ok (["paths", path, lower key, "responses", code].map .name) := by
  rw [← lower_upper_of_isMethodKey method]
  exact locate_operationPart (upper_isMethodKey method) path document
    (isWritten_ofResponse path (upper key) code) rfl (words_response code)

end Operations

theorem words_ofSchema (name : String) :
    ∀ step ∈ [WrittenStep.bare "components", .bare "schemas", .quoted name],
      step.isPlain = true ∧ step.isReserved = false := by
  intro step among
  simp only [List.mem_cons, List.not_mem_nil, or_false] at among
  rcases among with rfl | rfl | rfl
  · exact ⟨by decide, by decide⟩
  · exact ⟨by decide, by decide⟩
  · exact ⟨rfl, rfl⟩

theorem locate_ofSchema (name : String) (document : Node) :
    locate document (ofSchema name) = .ok (["components", "schemas", name].map .name) :=
  locate_words (isWritten_ofSchema name) rfl (words_ofSchema name) document

end ApiReview.Address
