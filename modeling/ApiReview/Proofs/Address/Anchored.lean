import ApiReview.Proofs.Address.Located
import ApiReview.Proofs.Node.Named
import ApiReview.Proofs.Outcome

/-! Where addresses lead that are not all names. The address of a parameter filters
a list, so that its way depends on the document; that of a reference's target may
need a word that the grammar reserves, and then leads nowhere. When such an address
leads to a place, the way is that of a part which exists, the anchor, and names
behind it. -/

set_option autoImplicit false

namespace ApiReview.Address

open ApiReview.Text

variable {steps : List WrittenStep} {names members : List String} {text reference : String}
  {document node found : Node} {parts way : List Part}

/-! ## References -/

def referenceSteps : List String → List WrittenStep
  | [] => []
  | [name] => [.quoted name]
  | name :: rest =>
    (if isPlainName name.toList then .bare name else .quoted name) :: referenceSteps rest

theorem writtenText_referenceSteps (names : List String) :
    writtenText (referenceSteps names) = (memberSteps names).toList := by
  induction names with
  | nil => rfl
  | cons name rest ih =>
      cases rest with
      | nil => simp [referenceSteps, memberSteps, writtenText, WrittenStep.text]
      | cons next rest =>
          have split : ∀ step : WrittenStep, writtenText (step :: referenceSteps (next :: rest)) =
              step.text.toList ++ (memberSteps (next :: rest)).toList := by
            intro step
            rw [← ih]
            exact List.flatMap_cons ..
          rw [referenceSteps, memberSteps, String.toList_append, split]
          · split <;> rfl
          · simp
          · simp

theorem referenceSteps_naming (names : List String) :
    ∀ step ∈ referenceSteps names, step.isNaming = true := by
  induction names with
  | nil => exact fun _ among => nomatch among
  | cons name rest ih =>
      cases rest with
      | nil =>
          intro step among
          rw [List.mem_singleton.mp among]
          rfl
      | cons next rest =>
          rw [referenceSteps]
          · intro step among
            rcases List.mem_cons.mp among with rfl | among
            · split
              · rename_i plain
                exact isBareWord_of_isPlainName plain
              · rfl
            · exact ih step among
          · simp

/-! ## Texts of builders -/

/-- Whether a text is an address as the builders write them. -/
def IsAddressText (text : String) : Prop :=
  ∃ steps, IsWritten text steps ∧ ∀ step ∈ steps, step.isNaming = true

namespace IsAddressText

theorem append {ending : List WrittenStep} {whole : String} (address : IsAddressText text)
    (behind : ∀ steps, IsWritten text steps → IsWritten whole (steps ++ ending))
    (naming : ∀ step ∈ ending, step.isNaming = true) : IsAddressText whole := by
  obtain ⟨steps, written, front⟩ := address
  refine ⟨steps ++ ending, behind steps written, fun step among => ?_⟩
  exact (List.mem_append.mp among).elim (front step) (naming step)

theorem bare {tail : String} (address : IsAddressText text) (name : String)
    (dotted : tail.toList = '.' :: name.toList) (plain : isPlainName name.toList = true) :
    IsAddressText (text ++ tail) :=
  address.append (fun _ written => written.bare dotted)
    (by simpa [WrittenStep.isNaming, WrittenStep.isPlain] using isBareWord_of_isPlainName plain)

theorem quoted (address : IsAddressText text) (name : String) :
    IsAddressText (text ++ member name) :=
  address.append (fun _ written => written.quoted name) (by simp [WrittenStep.isNaming, WrittenStep.isPlain])

theorem parameter (address : IsAddressText text) (name : String) (location? : Option String) :
    IsAddressText (text ++ parameterFilter name location?) :=
  address.append (fun _ written => written.parameter name location?)
    (by simp [WrittenStep.isNaming, WrittenStep.isPlain])

theorem ofReference (built : ofReference reference = .ok text) : IsAddressText text := by
  rw [Address.ofReference] at built
  split at built
  · rename_i names read
    cases built
    refine ⟨referenceSteps names, ?_, referenceSteps_naming names⟩
    rw [IsWritten, String.toList_append, writtenText_referenceSteps]
    rfl
  · cases built

theorem ofPath (path : String) : IsAddressText (ofPath path) := by
  refine ⟨_, isWritten_ofPath path, fun step among => ?_⟩
  simp only [List.mem_cons, List.not_mem_nil, or_false] at among
  rcases among with rfl | rfl
  · decide
  · rfl

theorem ofOperation {method : String} (word : isPlainName (lower method).toList = true)
    (path : String) : IsAddressText (ofOperation path method) := by
  rw [Address.ofOperation, String.append_assoc]
  exact (ofPath path).bare (lower method) (by simp) word

theorem ofParameter {method? : Option String}
    (word : ∀ method ∈ method?, isPlainName (lower method).toList = true)
    (path name : String) (location? : Option String) :
    IsAddressText (ofParameter path method? name location?) := by
  have list : IsAddressText (ofParameters path method?) := by
    cases method? with
    | none => exact (ofPath path).bare "parameters" rfl (by decide)
    | some method =>
        rw [ofParameters]
        cases method.isEmpty with
        | true => exact (ofPath path).bare "parameters" rfl (by decide)
        | false => exact (ofOperation (word method rfl) path).bare "parameters" rfl (by decide)
  exact list.parameter name location?

theorem ofResponse {method : String} (word : isPlainName (lower method).toList = true)
    (path code : String) : IsAddressText (ofResponse path method code) :=
  ((ofOperation word path).bare "responses" rfl (by decide)).quoted code

theorem schema {definition : String} (address : IsAddressText definition) :
    IsAddressText (definition ++ ".schema") :=
  address.bare "schema" rfl (by decide)

theorem contentSchema {response : String} (address : IsAddressText response)
    (mediaType : String) : IsAddressText (contentSchema response mediaType) :=
  ((address.bare "content" rfl (by decide)).quoted mediaType).schema

end IsAddressText

/-! ## Matches -/

theorem find_append (first second : Address) (node : Node) :
    find (first ++ second) node = (find first node).flatMap fun reached =>
      (find second reached.2).map fun behind => (reached.1 ++ behind.1, behind.2) := by
  induction first generalizing node with
  | nil => simp [find]
  | cons selector first ih =>
      simp only [List.cons_append, find, ih, List.flatMap_assoc, List.flatMap_map, List.map_flatMap,
        List.map_map]
      rfl

/-- What matches is not dropped. -/
theorem locateBackwards_of_find {address : Address} (matched : (find address document).head? = some (way, found))
    (missing : List Part) :
    locateBackwards document address.reverse missing = some (way ++ missing) := by
  cases address using List.reverseRecOn with
  | nil =>
      cases matched
      rfl
  | append_singleton before last =>
      rw [List.reverse_append, List.reverse_singleton, List.singleton_append, locateBackwards,
        List.reverse_reverse, matched]

theorem part?_of_candidate {part : Part} (named : node.isNamed = true)
    (among : (part, found) ∈ Selector.candidates node) : node.part? part = some found := by
  cases node with
  | object members =>
      obtain ⟨⟨key, value⟩, inside, shape⟩ := List.mem_map.mp among
      cases shape
      obtain ⟨name, rfl⟩ := (Node.isNamed_of_mem named inside).1
      exact Members.lookup_of_mem (Node.distinct_of_isNamed named) inside
  | list items =>
      obtain ⟨⟨item, index⟩, inside, shape⟩ := List.mem_map.mp among
      cases shape
      exact List.mem_zipIdx_iff_getElem?.mp inside
  | _ => cases among

/-- What a written step selects is a part of the node. -/
theorem part?_of_select {part : Part} (named : node.isNamed = true) (step : WrittenStep)
    (among : (part, found) ∈ step.selector.select node) : node.part? part = some found := by
  have member : ∀ name, (part, found) ∈ (memberSelector name).select node →
      node.part? part = some found := by
    intro name inside
    rw [select_member, Option.mem_toList, Option.map_eq_some_iff] at inside
    obtain ⟨value, read, shape⟩ := inside
    cases shape
    exact read
  cases step with
  | bare name => exact member name among
  | quoted name => exact member name among
  | item index =>
      cases node with
      | list items =>
          obtain ⟨_, asked, shape⟩ := List.mem_filterMap.mp among
          obtain ⟨item, read, shape⟩ := Option.map_eq_some_iff.mp shape
          cases List.mem_singleton.mp asked
          cases shape
          exact read
      | _ => cases among
  | parameter name location? => exact part?_of_candidate named (List.mem_filter.mp among).1

/-- Every match of a written address is at the end of a way of the document. -/
theorem at?_of_find (named : node.isNamed = true)
    (among : (parts, found) ∈ find (steps.map WrittenStep.selector) node) :
    node.at? parts = some found := by
  induction steps generalizing node parts with
  | nil =>
      cases List.mem_singleton.mp among
      rfl
  | cons step steps ih =>
      obtain ⟨⟨part, child⟩, selected, behind⟩ := List.mem_flatMap.mp among
      obtain ⟨⟨rest, last⟩, inside, shape⟩ := List.mem_map.mp behind
      cases shape
      have read := part?_of_select named step selected
      rw [Node.at?_cons, read, Option.bind_some]
      exact ih (Node.isNamed_of_part? named read) inside

/-! ## Places -/

/-- A place is found behind a part that exists, through names alone. -/
def IsAnchored (document : Node) (place : List Part) : Prop :=
  ∃ anchor base, ∃ names : List String, document.at? anchor = some base ∧
    place = anchor ++ names.map .name

theorem locateBackwards_written (named : document.isNamed = true)
    (naming : ∀ step ∈ steps, step.isNaming = true) (missing : List String)
    (located : locateBackwards document
      (steps.map WrittenStep.selector ++ members.map memberSelector).reverse
      (missing.map .name) = some way) :
    ∃ place, IsAnchored document place ∧ way = place ++ (members ++ missing).map .name := by
  induction members using List.reverseRecOn generalizing missing with
  | nil =>
      rw [List.map_nil, List.append_nil] at located
      induction steps using List.reverseRecOn generalizing missing with
      | nil =>
          cases located
          exact ⟨[], ⟨[], document, [], rfl, rfl⟩, rfl⟩
      | append_singleton steps step ih =>
          rw [List.map_append, List.reverse_append, List.map_singleton, List.reverse_singleton,
            List.singleton_append, locateBackwards, List.reverse_reverse] at located
          have whole : steps.map WrittenStep.selector ++ [step.selector] =
              (steps ++ [step]).map WrittenStep.selector := by simp
          rw [whole] at located
          cases matched : (find ((steps ++ [step]).map WrittenStep.selector) document).head? with
          | some first =>
              obtain ⟨parts, found⟩ := first
              rw [matched] at located
              have reached := at?_of_find named (List.mem_of_mem_head? matched)
              exact ⟨parts, ⟨parts, found, [], reached, by simp⟩, (Option.some.inj located).symm⟩
          | none =>
              rw [matched] at located
              have single : ∀ name, step.selector = memberSelector name → ∃ place,
                  IsAnchored document place ∧ way = place ++ ([] ++ missing).map Part.name := by
                intro name selects
                rw [selects] at located
                obtain ⟨place, ⟨anchor, base, names, reached, rfl⟩, shape⟩ :=
                  ih (fun other among => naming other (List.mem_append_left _ among))
                    (name :: missing) located
                refine ⟨anchor ++ (names ++ [name]).map .name,
                  ⟨anchor, base, names ++ [name], reached, rfl⟩, ?_⟩
                rw [shape]
                simp
              cases step with
              | bare name | quoted name => exact single name rfl
              | item index => exact absurd (naming _ List.mem_concat_self) (by simp [WrittenStep.isNaming])
              | parameter name location? => cases located
  | append_singleton members member ih =>
      rw [List.map_append, ← List.append_assoc, List.reverse_append, List.map_singleton,
        List.reverse_singleton, List.singleton_append, locateBackwards, List.reverse_reverse,
        List.append_assoc, ← List.map_singleton, ← List.map_append] at located
      cases matched : (find (steps.map WrittenStep.selector ++
          (members ++ [member]).map memberSelector) document).head? with
      | some first =>
          obtain ⟨parts, found⟩ := first
          rw [matched] at located
          have among := List.mem_of_mem_head? matched
          rw [find_append] at among
          obtain ⟨⟨front, between⟩, fronted, behind⟩ := List.mem_flatMap.mp among
          rw [find_members] at behind
          obtain ⟨⟨rest, last⟩, inside, shape⟩ := List.mem_map.mp behind
          cases shape
          rw [Option.mem_toList, Option.map_eq_some_iff] at inside
          obtain ⟨value, _, shape⟩ := inside
          cases shape
          refine ⟨front, ⟨front, between, [], at?_of_find named fronted, by simp⟩, ?_⟩
          rw [← Option.some.inj located]
          simp
      | none =>
          rw [matched] at located
          obtain ⟨place, anchored, shape⟩ := ih (member :: missing) located
          exact ⟨place, anchored, shape.trans (by simp)⟩

/-- An address that goes on with names leads, if it leads anywhere, to these names behind a place
that is anchored in the document. -/
theorem IsAddressText.locate_below {ending : List WrittenStep} {whole : String}
    (address : IsAddressText text) (named : document.isNamed = true)
    (behind : ∀ steps, IsWritten text steps → IsWritten whole (steps ++ ending))
    (plain : ∀ step ∈ ending, step.isPlain = true)
    (ends : ending.map WrittenStep.selector = members.map memberSelector)
    (located : locate document whole = .ok way) :
    ∃ place, IsAnchored document place ∧ way = place ++ members.map .name := by
  obtain ⟨steps, written, front⟩ := address
  have written := behind steps written
  have plain : ∀ step ∈ steps ++ ending, step.isPlain = true := fun step among =>
    (List.mem_append.mp among).elim (fun inside =>
      WrittenStep.isPlain_of_isNaming (front step inside))
      (plain step)
  obtain ⟨selectors, read, located⟩ := bind_ok located
  have shape : selectors = steps.map WrittenStep.selector ++ members.map memberSelector := by
    by_cases reserved : ∃ step ∈ steps ++ ending, step.isReserved = true
    · rw [ofText_reserved written plain reserved] at read
      cases read
    · have free : ∀ step ∈ steps ++ ending, step.isReserved = false := fun step among =>
        Bool.eq_false_iff.mpr fun bad => reserved ⟨step, among, bad⟩
      rw [ofText_written written plain free, List.map_append, ends] at read
      exact (Except.ok.inj read).symm
  rw [shape] at located
  split at located
  · cases located
  · split at located
    · rename_i parts found
      cases located
      obtain ⟨place, anchored, shape⟩ := locateBackwards_written named front [] found
      exact ⟨place, anchored, by rwa [List.append_nil] at shape⟩
    · cases located

end ApiReview.Address
