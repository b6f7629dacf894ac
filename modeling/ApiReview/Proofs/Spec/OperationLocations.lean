import ApiReview.Proofs.Correlation
import ApiReview.Proofs.Spec.Operations

/-! Operations read back from their locations. The words that name an operation are
its method, a blank and its path. Reading trims them and looks for a method in front
of a blank, so the path comes back if it stands on one line and no blank is at its
ends, and no other path does. A path alone is no method, since it starts with a slash. -/

set_option autoImplicit false

namespace ApiReview

open ApiReview.Text

variable {text rest : List Char} {c : Char} {method other path : String} {finding : Finding}
  {operation : Operation} {operations : List Operation} {spec : Node}

/-! ## Trimmed texts -/

theorem trimEnd_cons (visible : Letter.isBlank c = false) (text : List Char) :
    ∃ kept, trimEnd Letter.isBlank (c :: text) = c :: kept := by
  have filled : (c :: text).rdropWhile Letter.isBlank ≠ [] := by
    rw [ne_eq, List.rdropWhile_eq_nil_iff]
    intro blank
    have here := blank c List.mem_cons_self
    rw [visible] at here
    cases here
  obtain ⟨first, kept, shape⟩ := List.exists_cons_of_ne_nil filled
  have front := List.rdropWhile_prefix Letter.isBlank (c :: text)
  rw [shape] at front
  obtain ⟨rfl, -⟩ := List.cons_prefix_cons.mp front
  exact ⟨kept, shape⟩

/-- A text that starts with a visible character still does when it is trimmed. -/
theorem trimBlanks_cons (visible : Letter.isBlank c = false) (text : List Char) :
    ∃ kept, trimBlanks (c :: text) = c :: kept := by
  rw [trimBlanks, trimStart, List.dropWhile_cons_of_neg (by simp [visible])]
  exact trimEnd_cons visible text

theorem trimBlanks_eq_self (visible : Letter.isBlank c = false)
    (ended : ∀ d ∈ (c :: text).getLast?, Letter.isBlank d = false) :
    trimBlanks (c :: text) = c :: text := by
  rw [trimBlanks, trimStart, List.dropWhile_cons_of_neg (by simp [visible])]
  refine List.rdropWhile_eq_self_iff.mpr fun filled => ?_
  rw [Bool.not_eq_true]
  exact ended _ (List.getLast?_eq_some_getLast filled)

/-- No blank stands at the end of a trimmed text. -/
theorem getLast?_trimBlanks (last : c ∈ (trimBlanks text).getLast?) : Letter.isBlank c = false := by
  obtain ⟨filled, rfl⟩ := List.mem_getLast?_eq_getLast last
  rw [← Bool.not_eq_true]
  exact List.rdropWhile_last_not Letter.isBlank _ filled

/-! ## Methods in front -/

theorem length_upper_of_mem :
    ∀ method ∈ httpMethods, (upper method).toList.length = method.length := by
  decide

theorem fold_upper_of_mem :
    ∀ method ∈ httpMethods, (upper method).toList.map Letter.fold = method.toList := by
  decide

theorem upper_upper_of_mem : ∀ method ∈ httpMethods, upper (upper method) = upper method := by
  decide

theorem behindMethod?_slash (listed : method ∈ httpMethods) (rest : List Char) :
    behindMethod? method ('/' :: rest) = none := by
  have spelled : ∀ method ∈ httpMethods, 0 < method.length ∧ method.toList.head? ≠ some '/' := by
    decide
  obtain ⟨filled, apart⟩ := spelled method listed
  obtain ⟨more, size⟩ := Nat.exists_eq_add_one_of_ne_zero filled.ne'
  refine if_neg fun same => apart ?_
  rw [← beq_iff_eq.mp same, size]
  rfl

theorem behindMethod?_self (listed : method ∈ httpMethods) (rest : List Char) :
    behindMethod? method ((upper method).toList ++ rest) = some rest := by
  rw [behindMethod?, ← length_upper_of_mem method listed, List.take_left, List.drop_left,
    fold_upper_of_mem method listed, beq_self_eq_true, if_pos rfl]

/-- A method and the blank behind it tell it from all other methods. -/
theorem behindMethod?_other (listed : method ∈ httpMethods) (another : other ∈ httpMethods)
    (different : other ≠ method) (rest : List Char) :
    behindMethod? other ((upper method).toList ++ ' ' :: rest) = none := by
  have spelled : ∀ method ∈ httpMethods, ∀ other ∈ httpMethods, other ≠ method →
      (((upper method).toList ++ [' ']).take other.length).map Letter.fold ≠
        other.toList.take ((upper method).toList ++ [' ']).length := by
    decide
  have parted : (upper method).toList ++ ' ' :: rest =
      ((upper method).toList ++ [' ']) ++ rest := by
    rw [List.append_assoc, List.singleton_append]
  refine if_neg fun same => spelled method listed other another different ?_
  rw [← beq_iff_eq.mp same, parted, ← List.map_take, List.take_take, Nat.min_comm,
    ← List.take_take, List.take_left]

/-! ## Findings about operations -/

/-- A path that starts with a slash, stands on one line and does not end in a blank. -/
structure IsPlainPath (path : String) : Prop where
  rooted : startsWith path "/" = true
  unbroken : '\n' ∉ path.toList
  ended : ∀ c ∈ path.toList.getLast?, Letter.isBlank c = false

theorem exists_rest_of_rooted (rooted : startsWith path "/" = true) :
    ∃ rest, path.toList = '/' :: rest := by
  rw [startsWith, List.isPrefixOf_iff_prefix] at rooted
  obtain ⟨rest, shape⟩ := rooted
  exact ⟨rest, shape.symm⟩

theorem operationKey_of_rooted (rooted : startsWith finding.path "/" = true) :
    finding.operationKey = ⟨"GET", finding.path⟩ := by
  obtain ⟨rest, shape⟩ := exists_rest_of_rooted rooted
  obtain ⟨kept, trimmed⟩ := trimBlanks_cons (by decide : Letter.isBlank '/' = false) rest
  rw [Finding.operationKey, shape, trimmed, List.findSome?_eq_none_iff.mpr]
  · rfl
  · intro method listed
    rw [behindMethod?_slash listed kept, Option.bind_none]

theorem pathBehind?_blank (plain : IsPlainPath path) :
    pathBehind? (' ' :: path.toList) = some path.toList := by
  obtain ⟨rest, shape⟩ := exists_rest_of_rooted plain.rooted
  have unbroken : path.toList.contains '\n' = false := by simpa using plain.unbroken
  have whole : (' ' :: path.toList).dropWhile Letter.isBlank = path.toList := by
    rw [List.dropWhile_cons_of_pos (by decide), shape, List.dropWhile_cons_of_neg (by decide)]
  have filled : path.toList.isEmpty = false := by rw [shape]; rfl
  rw [pathBehind?, whole, filled, unbroken]
  rfl

theorem trimBlanks_location (listed : method ∈ httpMethods) (plain : IsPlainPath path) :
    trimBlanks ((upper method).toList ++ ' ' :: path.toList) =
      (upper method).toList ++ ' ' :: path.toList := by
  have spelled : ∀ method ∈ httpMethods, (upper method).toList.isEmpty = false ∧
      (upper method).toList.all (fun c => !Letter.isBlank c) = true := by
    decide
  obtain ⟨filled, visible⟩ := spelled method listed
  obtain ⟨rest, shape⟩ := exists_rest_of_rooted plain.rooted
  obtain ⟨c, more, letters⟩ := List.exists_cons_of_ne_nil (List.isEmpty_eq_false_iff.mp filled)
  rw [letters, List.all_cons, Bool.and_eq_true, Bool.not_eq_true'] at visible
  rw [letters, List.cons_append]
  refine trimBlanks_eq_self visible.1 fun last among => plain.ended last ?_
  rwa [← List.cons_append, List.getLast?_append_cons, shape, List.getLast?_cons_cons,
    ← shape] at among

/-- The location of an operation on a plain path tells its method and path. -/
theorem operationKey_of_plain (listed : method ∈ httpMethods) (plain : IsPlainPath path)
    (written : finding.path = upper method ++ " " ++ path) :
    finding.operationKey = ⟨upper method, path⟩ := by
  have text : finding.path.toList = (upper method).toList ++ ' ' :: path.toList := by
    rw [written, String.toList_append, String.toList_append, List.append_assoc]
    rfl
  obtain ⟨front, behind, methods, unseen⟩ := List.eq_append_cons_of_mem listed
  rw [Finding.operationKey, text, trimBlanks_location listed plain,
    List.findSome?_eq_some_iff.mpr ⟨front, method, behind, methods, ?_, ?_⟩, Option.getD_some]
  · rw [behindMethod?_self listed, Option.bind_some, pathBehind?_blank plain, Option.map_some,
      ← length_upper_of_mem method listed, List.take_left, String.ofList_toList,
      String.ofList_toList, upper_upper_of_mem method listed]
  · intro other before
    have another : other ∈ httpMethods := methods ▸ List.mem_append_left _ before
    rw [behindMethod?_other listed another fun same => unseen (same ▸ before), Option.bind_none]

theorem behindMethod?_suffix (found : behindMethod? method text = some rest) : rest <:+ text := by
  rw [behindMethod?] at found
  split at found
  · cases found
    exact List.drop_suffix method.length text
  · cases found

theorem pathBehind?_suffix (found : pathBehind? text = some rest) :
    rest <:+ text ∧ '\n' ∉ rest := by
  rw [pathBehind?] at found
  split at found
  · cases found
  · rename_i passed
    cases found
    simp only [Bool.or_eq_true, not_or, List.contains_iff_mem] at passed
    exact ⟨List.dropWhile_suffix Letter.isBlank, passed.2⟩

/-- A finding is about its own path, or about a path on one line that does not end in a blank. -/
theorem operationKey_cases (finding : Finding) :
    finding.operationKey = ⟨"GET", finding.path⟩ ∨
      ('\n' ∉ finding.operationKey.path.toList ∧
        ∀ c ∈ finding.operationKey.path.toList.getLast?, Letter.isBlank c = false) := by
  rw [Finding.operationKey]
  generalize found : List.findSome? _ httpMethods = found?
  cases found? with
  | none => exact .inl rfl
  | some key =>
      obtain ⟨method, -, read⟩ := List.exists_of_findSome?_eq_some found
      obtain ⟨rest, behind, read⟩ := Option.bind_eq_some_iff.mp read
      obtain ⟨path, stood, rfl⟩ := Option.map_eq_some_iff.mp read
      obtain ⟨suffix, unbroken⟩ := pathBehind?_suffix stood
      obtain ⟨front, whole⟩ := suffix.trans (behindMethod?_suffix behind)
      rw [Option.getD_some, String.toList_ofList]
      refine .inr ⟨unbroken, fun c last => ?_⟩
      have trimmed : c ∈ (trimBlanks finding.path.toList).getLast? :=
        whole ▸ List.mem_getLast?_append_of_mem_getLast? last
      exact getLast?_trimBlanks trimmed

/-! ## Operations of a document -/

theorem exists_method_of_mem (read : operationsOf spec = .ok operations)
    (among : operation ∈ operations) :
    ∃ method ∈ httpMethods, operation.method = upper method := by
  cases spec with
  | object root =>
      obtain ⟨pathKey, key, source⟩ := mem_operationsOf read among
      exact ⟨lower key, List.contains_iff_mem.mp source.isMethod,
        source.method.trans (upper_lower_of_isMethodKey source.isMethod).symm⟩
  | _ => cases read

/-- An operation on a path that starts with a slash is read back from its location exactly if the
path stands on one line and does not end in a blank. -/
theorem operationKey_iff (read : operationsOf spec = .ok operations)
    (among : operation ∈ operations) (rooted : startsWith operation.path "/" = true)
    (about : finding.path = operation.location) :
    finding.operationKey = ⟨operation.method, operation.path⟩ ↔ IsPlainPath operation.path := by
  constructor
  · intro told
    rcases operationKey_cases finding with own | ⟨unbroken, ended⟩
    · -- The location is longer than the path, so it is not taken for one.
      have whole : operation.path = operation.location :=
        about ▸ congrArg OperationKey.path (told.symm.trans own)
      have size := congrArg String.length whole
      simp only [Operation.location, String.length_append] at size
      have blank : " ".length = 1 := rfl
      omega
    · rw [told] at unbroken ended
      exact ⟨rooted, unbroken, ended⟩
  · intro plain
    obtain ⟨method, listed, shape⟩ := exists_method_of_mem read among
    rw [shape]
    exact operationKey_of_plain listed plain (by rw [about, Operation.location, shape])

/-- Findings are in one group exactly if they are about the same operation. -/
theorem grouped_together_iff {findings : List Finding} {left right : Finding}
    (leftListed : left ∈ findings) (rightListed : right ∈ findings) :
    (∃ group ∈ groupByOperation findings, left ∈ group.2 ∧ right ∈ group.2) ↔
      left.operationKey = right.operationKey := by
  rw [groupByOperation_eq]
  constructor
  · rintro ⟨⟨key, group⟩, asked, leftIn, rightIn⟩
    obtain ⟨-, rfl⟩ := mem_questionsAbout.mp asked
    have leftKey := (List.mem_filter.mp leftIn).2
    have rightKey := (List.mem_filter.mp rightIn).2
    rw [decide_eq_true_eq] at leftKey rightKey
    exact leftKey.trans rightKey.symm
  · intro same
    refine ⟨(left.operationKey, _),
      mem_questionsAbout.mpr ⟨List.mem_map_of_mem leftListed, rfl⟩, ?_, ?_⟩
    · exact List.mem_filter.mpr ⟨leftListed, decide_eq_true rfl⟩
    · exact List.mem_filter.mpr ⟨rightListed, decide_eq_true same.symm⟩

/-- A finding whose path starts with a slash is about the method `GET` on that path. A finding at
the location of an operation on such a path is about the method and the path of the operation
exactly if the path stands on one line and does not end in a blank. Findings at the locations of
two operations on such plain paths come into one group exactly if the operations have the same
method and the same path. -/
theorem location_tells_operation :
    (∀ finding : Finding, startsWith finding.path "/" = true →
      finding.operationKey = ⟨"GET", finding.path⟩) ∧
    ∀ spec operations, operationsOf spec = .ok operations →
      (∀ operation ∈ operations, startsWith operation.path "/" = true →
        ∀ finding : Finding, finding.path = operation.location →
          (finding.operationKey = ⟨operation.method, operation.path⟩ ↔
            IsPlainPath operation.path)) ∧
      ∀ first ∈ operations, ∀ second ∈ operations,
        IsPlainPath first.path → IsPlainPath second.path →
        ∀ findings : List Finding, ∀ left ∈ findings, ∀ right ∈ findings,
          left.path = first.location → right.path = second.location →
          ((∃ group ∈ groupByOperation findings, left ∈ group.2 ∧ right ∈ group.2) ↔
            first.method = second.method ∧ first.path = second.path) := by
  refine ⟨fun finding rooted => operationKey_of_rooted rooted, fun spec operations read => ⟨?_, ?_⟩⟩
  · intro operation among rooted finding about
    exact operationKey_iff read among rooted about
  · intro first firstAmong second secondAmong firstPlain secondPlain findings left leftListed right
      rightListed leftAbout rightAbout
    have leftKey := (operationKey_iff read firstAmong firstPlain.rooted leftAbout).mpr firstPlain
    have rightKey :=
      (operationKey_iff read secondAmong secondPlain.rooted rightAbout).mpr secondPlain
    rw [grouped_together_iff leftListed rightListed, leftKey, rightKey, OperationKey.mk.injEq]

/-- The methods of a path, the first of them with a capital alone. -/
def spelledMethods : Members := [(.str "Delete", .object []), (.str "get", .object [])]

def blankPaths : Node :=
  .object [(.str "paths", .object [(.str "/get users/{id} é", .object spelledMethods),
    (.str "/\tPOST /a", .object spelledMethods)])]

theorem location_tells_operation_blanks :
    operationsOf blankPaths = .ok [⟨"/get users/{id} é", "DELETE", [], spelledMethods, []⟩,
        ⟨"/get users/{id} é", "GET", [], spelledMethods, []⟩,
        ⟨"/\tPOST /a", "DELETE", [], spelledMethods, []⟩,
        ⟨"/\tPOST /a", "GET", [], spelledMethods, []⟩] ∧
      (findingAbout .error "/ get  /a\n" "shared").operationKey = ⟨"GET", "/ get  /a\n"⟩ ∧
      (findingAbout .error "DELETE /get users/{id} é" "gone").operationKey =
        ⟨"DELETE", "/get users/{id} é"⟩ ∧
      let findings := [findingAbout .error "DELETE /get users/{id} é" "gone",
        findingAbout .error "DELETE /\tPOST /a" "gone"]
      ¬ ∃ group ∈ groupByOperation findings,
        findingAbout .error "DELETE /get users/{id} é" "gone" ∈ group.2 ∧
          findingAbout .error "DELETE /\tPOST /a" "gone" ∈ group.2 := by
  have read : operationsOf blankPaths = .ok [
      ⟨"/get users/{id} é", "DELETE", [], spelledMethods, []⟩,
      ⟨"/get users/{id} é", "GET", [], spelledMethods, []⟩,
      ⟨"/\tPOST /a", "DELETE", [], spelledMethods, []⟩,
      ⟨"/\tPOST /a", "GET", [], spelledMethods, []⟩] := by rfl
  obtain ⟨own, told⟩ := location_tells_operation
  obtain ⟨back, grouped⟩ := told blankPaths _ read
  have users : IsPlainPath "/get users/{id} é" :=
    ⟨by decide, by decide, by rintro c ⟨⟩; decide⟩
  have posts : IsPlainPath "/\tPOST /a" :=
    ⟨by decide, by decide, by rintro c ⟨⟩; decide⟩
  refine ⟨read, own _ (by decide), ?_, fun together => ?_⟩
  · exact (back _ List.mem_cons_self users.rooted _ rfl).mpr users
  · have same := (grouped _ List.mem_cons_self _
      (List.mem_cons_of_mem _ (List.mem_cons_of_mem _ List.mem_cons_self)) users posts _
      _ List.mem_cons_self _ (List.mem_cons_of_mem _ List.mem_cons_self) rfl rfl).mp together
    exact absurd same.2 (by decide)

end ApiReview
