import ApiReview.Proofs.Node.Members
import ApiReview.Proofs.Outcome
import ApiReview.Proofs.Text.LetterCase
import ApiReview.Spec.Operation

/-! Where the operations of a document come from. An operation is a member of a
path item whose key is a method in any letter case; its location in words tells
the path and the method, up to that case. -/

set_option autoImplicit false

namespace ApiReview

open ApiReview.Text

/-- Whether a key of a path item names an operation. -/
def isMethodKey (key : String) : Bool := httpMethods.contains (lower key)

variable {key other path : String} {spec : Node} {root pathItem : Members} {operation : Operation}
  {operations : List Operation}

/-! ## Methods -/

theorem upper_lower_of_isMethodKey (method : isMethodKey key = true) :
    upper (lower key) = upper key := by
  refine upper_lower ?_
  have letters : (httpMethods.all fun method => method.toList.all Letter.isOwnLower) = true := by
    decide
  have own := List.all_eq_true.mp letters (lower key) (List.contains_iff_mem.mp method)
  exact List.all_eq_true.mp own

theorem lower_upper_of_isMethodKey (method : isMethodKey key = true) :
    lower (upper key) = lower key := by
  have letters : ∀ method ∈ httpMethods, lower (upper method) = method := by decide
  rw [← upper_lower_of_isMethodKey method, letters (lower key) (List.contains_iff_mem.mp method)]

theorem space_not_mem_upper (method : isMethodKey key = true) : ' ' ∉ (upper key).toList := by
  have letters : ∀ method ∈ httpMethods, ' ' ∉ (upper method).toList := by decide
  rw [← upper_lower_of_isMethodKey method]
  exact letters (lower key) (List.contains_iff_mem.mp method)

theorem isMethodKey_of_mem : ∀ method ∈ httpMethods, isMethodKey method = true := by decide

theorem lower_of_mem : ∀ method ∈ httpMethods, lower method = method := by decide

theorem upper_isMethodKey (method : isMethodKey key = true) : isMethodKey (upper key) = true := by
  rw [isMethodKey, lower_upper_of_isMethodKey method]
  exact method

theorem lower_lower_of_isMethodKey (method : isMethodKey key = true) :
    lower (lower key) = lower key :=
  lower_of_mem (lower key) (List.contains_iff_mem.mp method)

theorem upper_isEmpty (method : isMethodKey key = true) : (upper key).isEmpty = false := by
  have letters : ∀ method ∈ httpMethods, (upper method).isEmpty = false := by decide
  rw [← upper_lower_of_isMethodKey method]
  exact letters (lower key) (List.contains_iff_mem.mp method)

private theorem takeWhile_ne_space {front : List Char} (visible : ' ' ∉ front) (rest : List Char) :
    (front ++ ' ' :: rest).takeWhile (· != ' ') = front := by
  have kept : ∀ c ∈ front, (c != ' ') = true := fun c among =>
    bne_iff_ne.mpr fun same => visible (same ▸ among)
  rw [List.takeWhile_append_of_pos kept, List.takeWhile_cons_of_neg (by decide), List.append_nil]

/-- The location of an operation tells its method and path. -/
theorem location_injective {first second : String} (method : isMethodKey key = true)
    (another : isMethodKey other = true)
    (same : upper key ++ " " ++ first = upper other ++ " " ++ second) :
    lower key = lower other ∧ first = second := by
  have letters := congrArg String.toList same
  simp only [String.toList_append, List.append_assoc] at letters
  have front : (upper key).toList = (upper other).toList := by
    have split := congrArg (List.takeWhile (· != ' ')) letters
    rwa [show " ".toList = [' '] from rfl, List.singleton_append, List.singleton_append,
      takeWhile_ne_space (space_not_mem_upper method),
      takeWhile_ne_space (space_not_mem_upper another)] at split
  rw [front] at letters
  have methods : upper key = upper other := String.toList_inj.mp front
  refine ⟨?_, ?_⟩
  · rw [← lower_upper_of_isMethodKey method, methods, lower_upper_of_isMethodKey another]
  · exact String.toList_inj.mp (List.append_cancel_left (List.append_cancel_left letters))

/-! ## Operations -/

/-- An operation and the members of the document that it is read from. -/
structure IsOperation (spec : Node) (root : Members) (pathKey : Key) (key : String)
    (operation : Operation) : Prop where
  listed : (pathKey, .object operation.pathItem) ∈ pathItems root
  path : pathKey.display = operation.path
  declared : (.str key, .object operation.definition) ∈ operation.pathItem
  isMethod : isMethodKey key = true
  method : operation.method = upper key
  parameters : parametersOf spec operation.path operation.pathItem (lower key)
    operation.definition = .ok operation.parameters

theorem mem_operationsOfItem {pathKey : Key} (listed : (pathKey, .object pathItem) ∈ pathItems root)
    (read : operationsOfItem spec pathKey.display pathItem = .ok operations)
    (among : operation ∈ operations) :
    operation.pathItem = pathItem ∧ ∃ key, IsOperation spec root pathKey key operation := by
  obtain ⟨found, walked, shape⟩ := bind_ok read
  cases shape
  obtain ⟨entry, inside, result⟩ := List.mem_filterMap.mp among
  obtain ⟨⟨key, value⟩, member, stepped⟩ := mem_of_mapM_ok walked inside
  cases result
  cases key with
  | str key =>
      cases value with
      | object definition =>
          simp only at stepped
          split at stepped
          · rename_i method
            obtain ⟨parameters, collected, shape⟩ := bind_ok stepped
            cases shape
            exact ⟨rfl, key, listed, rfl, member, method, rfl, collected⟩
          · cases stepped
      | _ => cases stepped
  | _ => cases stepped

/-- Every operation of a document is a member of a path item under a method key. -/
theorem mem_operationsOf (read : operationsOf (.object root) = .ok operations)
    (among : operation ∈ operations) :
    ∃ pathKey key, IsOperation (.object root) root pathKey key operation := by
  obtain ⟨members, rooted, read⟩ := bind_ok read
  cases rooted
  obtain ⟨found, walked, shape⟩ := bind_ok read
  cases shape
  obtain ⟨group, inside, among⟩ := List.mem_flatten.mp among
  obtain ⟨⟨pathKey, value⟩, listed, stepped⟩ := mem_of_mapM_ok walked inside
  cases value with
  | object pathItem =>
      obtain ⟨_, key, source⟩ := mem_operationsOfItem listed stepped among
      exact ⟨pathKey, key, source⟩
  | _ =>
      cases stepped
      cases among

/-- Every member of a path item under a method key is an operation. -/
theorem operationsOf_mem {pathKey : Key} {definition : Members}
    (read : operationsOf (.object root) = .ok operations)
    (listed : (pathKey, .object pathItem) ∈ pathItems root)
    (declared : (.str key, .object definition) ∈ pathItem) (method : isMethodKey key = true) :
    ∃ operation ∈ operations, IsOperation (.object root) root pathKey key operation ∧
      operation.pathItem = pathItem ∧ operation.definition = definition := by
  obtain ⟨members, rooted, read⟩ := bind_ok read
  cases rooted
  obtain ⟨found, walked, shape⟩ := bind_ok read
  cases shape
  obtain ⟨group, inside, stepped⟩ := mapM_ok_mem walked listed
  obtain ⟨options, itemWalked, shape⟩ := bind_ok stepped
  cases shape
  obtain ⟨option, among, stepped⟩ := mapM_ok_mem itemWalked declared
  simp only [show httpMethods.contains (lower key) = true from method, if_true] at stepped
  obtain ⟨parameters, collected, shape⟩ := bind_ok stepped
  cases shape
  let operation : Operation := ⟨pathKey.display, upper key, definition, pathItem, parameters⟩
  refine ⟨operation, List.mem_flatten.mpr ⟨_, inside, ?_⟩, ?_, rfl, rfl⟩
  · exact List.mem_filterMap.mpr ⟨some operation, among, rfl⟩
  · exact ⟨listed, rfl, declared, method, rfl, collected⟩

end ApiReview
