import ApiReview.Proofs.Address.Written
import ApiReview.Proofs.Node.Way

/-! Where written addresses lead. An address that only names members and counts items
from the front means the same way in every document, whether its end exists or is
yet to be created. -/

set_option autoImplicit false

namespace ApiReview.Address

open ApiReview.Text

variable {names : List String} {steps : List WrittenStep} {text : String} {node document : Node}
  {way : List Part}

/-- The selector of the member with a name. -/
def memberSelector (name : String) : Selector := .step (.names [name])

theorem select_member (name : String) (node : Node) :
    (memberSelector name).select node =
      ((node.part? (.name name)).map fun value => (Part.name name, value)).toList := by
  cases node with
  | object members =>
      have read : (Node.object members).part? (.name name) = Members.get? members name := rfl
      rw [read, memberSelector, Selector.select, Step.select]
      cases found : Members.get? members name <;> simp [found]
  | _ => rfl

/-- Whether a part is named or counted from the front. -/
def isForward : Part → Bool
  | .position (.negSucc _) => false
  | _ => true

/-- The selector of a single part. -/
def partSelector : Part → Selector
  | .name name => memberSelector name
  | .position index => .step (.positions [index])

theorem map_memberSelector (names : List String) :
    names.map memberSelector = (names.map Part.name).map partSelector := by
  rw [List.map_map]
  rfl

theorem forward_names (names : List String) :
    ∀ part ∈ names.map Part.name, isForward part = true := by
  intro part among
  obtain ⟨name, _, rfl⟩ := List.mem_map.mp among
  rfl

theorem select_part {part : Part} (forward : isForward part = true) (node : Node) :
    (partSelector part).select node =
      ((node.part? part).map fun value => (part, value)).toList := by
  cases part with
  | name name => exact select_member name node
  | position index =>
      cases index with
      | negSucc index => cases forward
      | ofNat index =>
          cases node with
          | list items =>
              have read : (Node.list items).part? (.position (.ofNat index)) = items[index]? := rfl
              have chosen : itemAt? items (.ofNat index) = items[index]? := rfl
              rw [read, partSelector, Selector.select, Step.select, List.filterMap_cons, chosen]
              cases items[index]? <;> rfl
          | _ => rfl

/-- An address of single parts matches at most once, at the end of their way. -/
theorem find_parts (forward : ∀ part ∈ way, isForward part = true) (node : Node) :
    find (way.map partSelector) node =
      ((node.at? way).map fun found => (way, found)).toList := by
  induction way generalizing node with
  | nil => rfl
  | cons part way ih =>
      have later := ih fun other among => forward other (List.mem_cons_of_mem _ among)
      rw [List.map_cons, find, select_part (forward part List.mem_cons_self), Node.at?_cons]
      cases node.part? part with
      | none => rfl
      | some child =>
          simp only [Option.map_some, Option.toList_some, List.flatMap_cons, List.flatMap_nil,
            List.append_nil, Option.bind_some, later]
          cases child.at? way <;> rfl

theorem find_members (names : List String) (node : Node) :
    find (names.map memberSelector) node =
      ((node.at? (names.map .name)).map fun found => (names.map Part.name, found)).toList := by
  rw [map_memberSelector]
  exact find_parts (forward_names names) node

theorem crosses_parts (way : List Part) (node : Node) :
    crosses (way.map partSelector) node = false := by
  induction way generalizing node with
  | nil => rfl
  | cons part way ih =>
      rw [List.map_cons, crosses]
      cases part <;> simp [partSelector, memberSelector, Selector.crosses, ih]

/-- What does not match is dropped from the end and put back as missing, so that the way is the
same however much of it exists. -/
theorem locateBackwards_parts (forward : ∀ part ∈ way, isForward part = true)
    (missing : List Part) :
    locateBackwards document (way.map partSelector).reverse missing = some (way ++ missing) := by
  induction way using List.reverseRecOn generalizing missing with
  | nil => rfl
  | append_singleton way part ih =>
      have whole : way.map partSelector ++ [partSelector part] =
          (way ++ [part]).map partSelector := by simp
      have names : (partSelector part).newPart? = some part := by cases part <;> rfl
      have before := ih fun other among => forward other (List.mem_append_left _ among)
      rw [List.map_append, List.reverse_append, List.map_singleton, List.reverse_singleton,
        List.singleton_append, locateBackwards, List.reverse_reverse, whole, find_parts forward]
      cases document.at? (way ++ [part]) with
      | some found => rfl
      | none => simpa [names] using before (part :: missing)

theorem locate_parts (read : ofText text = .ok (way.map partSelector))
    (forward : ∀ part ∈ way, isForward part = true) (document : Node) :
    locate document text = .ok way := by
  have located : locate? (way.map partSelector) document = some way := by
    rw [locate?, locateBackwards_parts forward, List.append_nil]
  rw [locate, read]
  simp only [bind, Except.bind, crosses_parts, Bool.false_eq_true, if_false, located]

/-! ## Texts of builders -/

/-- Whether a text is that of some steps behind a root. -/
def IsWritten (text : String) (steps : List WrittenStep) : Prop :=
  text.toList = '$' :: writtenText steps

namespace IsWritten

theorem bare (written : IsWritten text steps) {name tail : String}
    (dotted : tail.toList = '.' :: name.toList) :
    IsWritten (text ++ tail) (steps ++ [.bare name]) := by
  rw [IsWritten, String.toList_append, written, dotted]
  simp [writtenText, WrittenStep.text]

theorem quoted (written : IsWritten text steps) (name : String) :
    IsWritten (text ++ member name) (steps ++ [.quoted name]) := by
  rw [IsWritten, String.toList_append, written]
  simp [writtenText, WrittenStep.text]

theorem parameter (written : IsWritten text steps) (name : String) (location? : Option String) :
    IsWritten (text ++ parameterFilter name location?) (steps ++ [.parameter name location?]) := by
  rw [IsWritten, String.toList_append, written]
  simp [writtenText, WrittenStep.text]

end IsWritten

theorem isWritten_ofPath (path : String) : IsWritten (ofPath path) [.bare "paths", .quoted path] := by
  rw [IsWritten, ofPath, String.toList_append]
  simp [writtenText, WrittenStep.text]

theorem isWritten_ofOperation (path method : String) :
    IsWritten (ofOperation path method) [.bare "paths", .quoted path, .bare (lower method)] := by
  rw [ofOperation, String.append_assoc]
  exact (isWritten_ofPath path).bare (by simp)

theorem isWritten_ofRequestBody (path method : String) :
    IsWritten (ofRequestBody path method)
      [.bare "paths", .quoted path, .bare (lower method), .bare "requestBody"] :=
  (isWritten_ofOperation path method).bare rfl

theorem isWritten_ofResponses (path method : String) :
    IsWritten (ofResponses path method)
      [.bare "paths", .quoted path, .bare (lower method), .bare "responses"] :=
  (isWritten_ofOperation path method).bare rfl

theorem isWritten_ofResponse (path method code : String) :
    IsWritten (ofResponse path method code)
      [.bare "paths", .quoted path, .bare (lower method), .bare "responses", .quoted code] :=
  (isWritten_ofResponses path method).quoted code

theorem isWritten_ofParameters {method : String} (named : method.isEmpty = false) (path : String) :
    IsWritten (ofParameters path (some method))
      [.bare "paths", .quoted path, .bare (lower method), .bare "parameters"] := by
  simp only [ofParameters, named, Bool.false_eq_true, if_false]
  exact (isWritten_ofOperation path method).bare rfl

theorem isWritten_ofSchema (name : String) :
    IsWritten (ofSchema name) [.bare "components", .bare "schemas", .quoted name] := by
  rw [IsWritten, ofSchema, ofSchemas, String.toList_append]
  simp [writtenText, WrittenStep.text]

/-- Written steps that choose single parts mean the way through these parts. -/
theorem IsWritten.locate_parts (written : IsWritten text steps)
    (selects : steps.map WrittenStep.selector = way.map partSelector)
    (forward : ∀ part ∈ way, isForward part = true)
    (plain : ∀ step ∈ steps, step.isPlain = true)
    (free : ∀ step ∈ steps, step.isReserved = false) (document : Node) :
    locate document text = .ok way :=
  Address.locate_parts ((ofText_written written plain free).trans (congrArg Except.ok selects))
    forward document

/-- Written steps that name members mean the way through these members. -/
theorem IsWritten.locate_eq (written : IsWritten text steps)
    (selects : steps.map WrittenStep.selector = names.map memberSelector)
    (plain : ∀ step ∈ steps, step.isPlain = true)
    (free : ∀ step ∈ steps, step.isReserved = false) (document : Node) :
    locate document text = .ok (names.map .name) :=
  written.locate_parts (selects.trans (map_memberSelector names)) (forward_names names) plain free
    document

end ApiReview.Address
