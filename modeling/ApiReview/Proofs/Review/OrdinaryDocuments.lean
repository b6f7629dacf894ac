import ApiReview.Proofs.Review.Calls
import ApiReview.Proofs.Rules.SettledLooks

/-! Reviews of ordinary documents. Optional parts that are absent or null never keep
a review from its result, whatever becomes of failures. What may do so is one thing
only: a reference that takes a position with too many digits. -/

set_option autoImplicit false

namespace ApiReview

open ApiReview.Text

/-- A document excuses the failure of a review when it has an overlong reference, and the failure
is that a position could not be read. -/
def Node.ExcusesReview (document : Node) (failure : ReviewFailure) : Prop :=
  document.hasOverlongReference = true ∧
    (failure = .fault .badValue ∨ ∃ ruleId location, failure = .rule ruleId location .badValue)

/-! ## Runs -/

section Runs

variable {facts : ReviewFacts} {rule : Rule} {element : Element}

theorem isFrom_of_mem_visits {kind : RuleKind} (other : kind ≠ .property)
    (read : ∀ operation ∈ facts.operations, operation.IsFrom facts.document) {visit : Visit}
    (among : visit ∈ facts.visits kind) :
    ∃ element, visit = .ok element ∧ element.kind = kind ∧ element.IsFrom facts.document := by
  cases kind with
  | spec =>
      cases List.mem_singleton.mp among
      exact ⟨_, rfl, rfl, .spec⟩
  | path =>
      obtain ⟨⟨path, item⟩, listed, rfl⟩ := List.mem_map.mp among
      obtain ⟨listed, shape⟩ := List.mem_filter.mp listed
      obtain ⟨⟨key, value⟩, held, same⟩ := List.mem_map.mp listed
      cases same
      cases item with
      | object members => exact ⟨_, rfl, rfl, .path _ (contains_of_mem_pathItems rfl held)⟩
      | _ => cases shape
  | operation =>
      obtain ⟨operation, listed, rfl⟩ := List.mem_map.mp among
      exact ⟨_, rfl, rfl, .operation (read operation listed)⟩
  | parameter =>
      obtain ⟨operation, listed, among⟩ := List.mem_flatMap.mp among
      obtain ⟨parameter, declared, rfl⟩ := List.mem_map.mp among
      exact ⟨_, rfl, rfl, .parameter operation ((read operation listed).parameters _ declared)⟩
  | schema =>
      obtain ⟨⟨name, schema⟩, -, rfl⟩ := List.mem_map.mp among
      exact ⟨_, rfl, rfl, .schema name schema⟩
  | property => exact absurd rfl other

theorem settles_guarded (answers : facts.document.Answers (rule.look facts element)) :
    Settles facts.document.ExcusesReview (fun _ => True) (rule.guarded facts element) := by
  unfold Rule.guarded
  generalize rule.look facts element = report at answers
  cases answers with
  | ok _ => exact .ok trivial
  | failed excused =>
      obtain ⟨rfl, overlong⟩ := excused
      dsimp only
      split
      · exact .failed ⟨overlong, .inl rfl⟩
      · split
        · exact .failed ⟨overlong, .inr ⟨_, _, rfl⟩⟩
        · exact .ok trivial
        · exact .ok trivial

theorem settles_run (listed : rule ∈ Registry.standard.all)
    (ordinary : facts.document.isOrdinary = true)
    (read : ∀ operation ∈ facts.operations, operation.IsFrom facts.document) :
    Settles facts.document.ExcusesReview (fun _ => True) (rule.run facts) := by
  have other : rule.kind ≠ .property := by
    simp only [standard_all, List.mem_cons, List.not_mem_nil, or_false] at listed
    rcases listed with rfl | rfl | rfl | rfl | rfl | rfl | rfl | rfl | rfl | rfl | rfl | rfl | rfl |
      rfl | rfl | rfl | rfl <;> decide
  refine (settles_mapM fun visit among =>
    (show Settles facts.document.ExcusesReview (fun _ => True) _ from ?_)).bind
      fun _ _ => .ok trivial
  obtain ⟨element, rfl, own, from_document⟩ := isFrom_of_mem_visits other read among
  unfold Rule.visit
  dsimp only
  split
  · exact settles_guarded (answers_look listed ordinary own from_document)
  · exact .ok trivial

end Runs

/-! ## Reviews -/

theorem settles_ofSpec {root : Members} (ordinary : (Node.object root).isOrdinary = true)
    (settings : Settings) (vocabulary : Vocabulary) :
    Settles (Node.object root).Excuses
      (fun facts => facts.spec = root ∧
        ∀ operation ∈ facts.operations, operation.IsFrom (.object root))
      (ReviewFacts.ofSpec (.object root) settings vocabulary) := by
  refine (settles_of_ok (singletons_of_isOrdinary ordinary rfl)).bind fun singletons _ => ?_
  exact (settles_operationsOf ordinary rfl).bind fun operations read => .ok ⟨rfl, read⟩

theorem title?_ok {root : Members} (titled : ∀ info title, Members.get? root "info" = some info →
    info.get? "title" = some title → title = .null ∨ ∃ text, title = .str text) :
    ∃ title?, Reviewer.title? (((Members.get? root "info").bind Node.members?).getD []) =
      .ok title? := by
  unfold Reviewer.title?
  cases described : (Members.get? root "info").bind Node.members? with
  | none => exact ⟨none, rfl⟩
  | some members =>
      obtain ⟨info, held, shape⟩ := Option.bind_eq_some_iff.mp described
      rw [Option.getD_some]
      cases read : Members.get? members "title" with
      | none => exact ⟨none, rfl⟩
      | some title =>
          have named : info.get? "title" = some title := by rw [Node.get?, shape, Option.bind_some, read]
          rcases titled info title held named with rfl | ⟨text, rfl⟩
          · exact ⟨none, rfl⟩
          · exact ⟨some text, rfl⟩

def itemReference (position : String) : Members :=
  [(.str "components", .null), (.str "ids", .list [.int 1]),
   (.str "paths", .object [(.str "/v1/\x7bid\x7d", .object [(.str "get", .object
     [(.str "parameters", .list [.object [(.str "$ref", .str ("#/ids/" ++ position))]]),
      (.str "responses", .null)])])])]

theorem referenceNames?_position {position : String} (index : isIndexToken position = true) :
    Address.referenceNames? ("#/ids/" ++ position) = some ["ids", position] := by
  rw [isIndexToken, Bool.and_eq_true, List.all_eq_true] at index
  have absent {c : Char} (other : Letter.isDigit c = false) : c ∉ position.toList := fun among =>
    absurd (index.2 c among) (Bool.eq_false_iff.mp other)
  have slash : '/' ∉ position.toList := absent (by decide)
  have tilde : '~' ∉ position.toList := absent (by decide)
  have text : ("#/ids/" ++ position).toList =
      '#' :: '/' :: ['/'].intercalate ["ids".toList, position.toList] := by
    rw [String.toList_append]
    simp [List.intercalate]
  have cut : (['/'].intercalate ["ids".toList, position.toList]).splitOn '/' =
      ["ids".toList, position.toList] := by
    refine List.splitOn_intercalate '/' (fun part among => ?_) (by simp)
    rcases List.mem_cons.mp among with rfl | among
    · decide
    · exact List.mem_singleton.mp among ▸ slash
  rw [Address.referenceNames?, text]
  simp only [cut, List.map_cons, List.map_nil, Address.unescapeToken,
    replacePairs_of_not_mem tilde, String.ofList_toList]
  rfl

section Overlong

variable {position : String} (index : isIndexToken position = true)
  (long : Integer.isTooLong position.toList = true)

include index long

theorem follow?_itemReference :
    follow? (.object (itemReference position)) ("#/ids/" ++ position) = .error .badValue := by
  have unread : Integer.ofFewDigits? position.toList = none := by
    rw [Integer.ofFewDigits?, if_pos long]
  have read : Members.get? (itemReference position) "ids" = some (.list [.int 1]) := rfl
  rw [follow?, referenceNames?_position index]
  simp only [descend?, read, index, unread, if_true]

theorem parameter?_itemReference (path : String) (method? : Option String) :
    parameter? (.object (itemReference position)) path method?
      (.object [(.str "$ref", .str ("#/ids/" ++ position))]) = .error .badValue := by
  change ((follow? _ _ >>= _) >>= _) = _
  rw [follow?_itemReference index long]
  rfl

theorem operationsOf_itemReference :
    operationsOf (.object (itemReference position)) = .error .badValue := by
  have parameters (path method : String) (pathItem : Members)
      (none_shared : parameterItems pathItem = .ok []) :
      parametersOf (.object (itemReference position)) path pathItem method
        [(.str "parameters", .list [.object [(.str "$ref", .str ("#/ids/" ++ position))]]),
         (.str "responses", .null)] = .error .badValue := by
    rw [parametersOf, none_shared]
    change ((parameter? _ _ _ _ >>= _) >>= _) = _
    rw [parameter?_itemReference index long]
    rfl
  have method : httpMethods.contains (lower "get") = true := by decide
  rw [operationsOf]
  change ((operationsOfItem _ _ _ >>= _) >>= _) = _
  rw [operationsOfItem]
  simp only [List.mapM_cons, method, if_true]
  rw [parameters _ _ _ rfl]
  rfl

/-- A reference that takes a position of too many digits ends every review, before any rule is
asked. -/
theorem review_itemReference {reviewer : Reviewer} (specPath? : Option String) :
    reviewer.review (.object (itemReference position)) specPath? = .error (.fault .badValue) := by
  obtain ⟨singletons, inferred⟩ : ∃ singletons,
      (Node.object (itemReference position)).singletons = .ok singletons := ⟨_, rfl⟩
  refine Reviewer.review_of_fault ?_
  rw [ReviewFacts.ofSpec, inferred, operationsOf_itemReference index long]
  rfl

end Overlong

theorem isOrdinary_itemReference {position : String} (ascii : isAscii position = true) :
    (Node.object (itemReference position)).isOrdinary = true := by
  have text : isAscii ("#/ids/" ++ position) = true := by
    rw [isAscii, String.toList_append, List.all_append, Bool.and_eq_true]
    exact ⟨by decide, ascii⟩
  simp [itemReference, Node.isOrdinary, Node.holdOrdinary, Node.areOrdinary, Node.suits, sectionNames,
    Node.isSection, Node.isList, Node.isNull, Node.isObject, Node.members?, Node.items?, Node.text?,
    text]

def ones (count : Nat) : String := String.ofList (List.replicate count '1')

theorem ones_overlong {count : Nat} (many : Integer.digitLimit < count) :
    isAscii (ones count) = true ∧ isIndexToken (ones count) = true ∧
      Integer.isTooLong (ones count).toList = true := by
  have some_digit : count ≠ 0 := by omega
  have digit : Letter.isDigit '1' = true := by decide
  refine ⟨?_, ?_, ?_⟩
  · simp [isAscii, ones]
  · simp [isIndexToken, ones, digit, some_digit]
  · simp [Integer.isTooLong, ones, many]

/-- A reviewer whose reviews end with the first failure of a rule. -/
def raisingReviewer : Reviewer where
  settings := { onRuleError := .raise }

end ApiReview
