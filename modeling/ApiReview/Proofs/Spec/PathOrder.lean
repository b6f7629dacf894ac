import ApiReview.Proofs.Node.Members
import ApiReview.Proofs.Outcome
import ApiReview.Path.Singleton
import ApiReview.Spec.Response

/-! Documents that differ in the order of their paths alone. No reference leads to
a whole document, and one that leads to all paths together leads to an object that
is only ever asked for names. So what is read from two such documents is the same,
but for the order in which the operations come. -/

set_option autoImplicit false

namespace ApiReview

/-! ## Lists in another order -/

/-- The entries of two lists are related to each other, in some order. -/
def PermutedBy {First Second : Type} (related : First → Second → Prop) (firsts : List First)
    (seconds : List Second) : Prop :=
  ∃ middle, List.Forall₂ related firsts middle ∧ middle.Perm seconds

theorem PermutedBy.of_perm {Entry : Type} {related : Entry → Entry → Prop}
    (reflexive : ∀ entry, related entry entry) {firsts seconds : List Entry}
    (permuted : firsts.Perm seconds) : PermutedBy related firsts seconds :=
  ⟨firsts, List.forall₂_same.mpr fun entry _ => reflexive entry, permuted⟩

section PermutedBy

variable {First Second Third Fourth : Type} {related : First → Second → Prop}
  {derived : Third → Fourth → Prop} {firsts : List First} {seconds : List Second}

theorem PermutedBy.map {change : First → Third} {other : Second → Fourth}
    (permuted : PermutedBy related firsts seconds)
    (changes : ∀ first second, related first second → derived (change first) (other second)) :
    PermutedBy derived (firsts.map change) (seconds.map other) := by
  obtain ⟨middle, aligned, same⟩ := permuted
  exact ⟨middle.map other, List.rel_map (fun first second => changes first second) aligned,
    same.map other⟩

theorem PermutedBy.flatMap {change : First → List Third} {other : Second → List Fourth}
    (permuted : PermutedBy related firsts seconds)
    (changes : ∀ first second, related first second →
      List.Forall₂ derived (change first) (other second)) :
    PermutedBy derived (firsts.flatMap change) (seconds.flatMap other) := by
  obtain ⟨middle, aligned, same⟩ := permuted
  exact ⟨middle.flatMap other,
    List.rel_flatMap aligned fun first second => changes first second, same.flatMap_right other⟩

end PermutedBy

/-- A walk over the entries in another order gives the same results in another order. -/
theorem mapM_perm {Error Entry Result : Type} {step : Entry → Except Error Result}
    {first second : List Entry} {results : List Result} (permuted : first.Perm second)
    (walked : first.mapM step = .ok results) :
    ∃ others, second.mapM step = .ok others ∧ results.Perm others := by
  induction permuted generalizing results with
  | nil => exact ⟨results, walked, .refl _⟩
  | cons entry _ ih =>
      rw [List.mapM_cons] at walked
      obtain ⟨result, here, walked⟩ := bind_ok walked
      obtain ⟨later, behind, shape⟩ := bind_ok walked
      cases shape
      obtain ⟨others, again, same⟩ := ih behind
      refine ⟨result :: others, ?_, same.cons result⟩
      rw [List.mapM_cons, here, again]
      rfl
  | swap left right rest =>
      rw [List.mapM_cons] at walked
      obtain ⟨result, here, walked⟩ := bind_ok walked
      obtain ⟨later, behind, shape⟩ := bind_ok walked
      cases shape
      rw [List.mapM_cons] at behind
      obtain ⟨other, next, behind⟩ := bind_ok behind
      obtain ⟨last, rest_ok, shape⟩ := bind_ok behind
      cases shape
      refine ⟨other :: result :: last, ?_, .swap ..⟩
      rw [List.mapM_cons, List.mapM_cons, next, here, rest_ok]
      rfl
  | trans _ _ firstIH secondIH =>
      obtain ⟨middle, again, same⟩ := firstIH walked
      obtain ⟨others, last, further⟩ := secondIH again
      exact ⟨others, last, same.trans further⟩

/-- A walk that takes the same step on related entries gives the same results, in some order. -/
theorem PermutedBy.mapM {Error First Second Result : Type} {related : First → Second → Prop}
    {firsts : List First} {seconds : List Second} {step : First → Except Error Result}
    {other : Second → Except Error Result} {results : List Result}
    (permuted : PermutedBy related firsts seconds)
    (same : ∀ first second, related first second → step first = other second)
    (walked : firsts.mapM step = .ok results) :
    ∃ others, seconds.mapM other = .ok others ∧ results.Perm others := by
  obtain ⟨middle, aligned, reordered⟩ := permuted
  refine mapM_perm reordered (walked ▸ ?_)
  clear walked reordered
  induction aligned with
  | nil => rfl
  | cons here _ ih => rw [List.mapM_cons, List.mapM_cons, ih, same _ _ here]

/-! ## Objects with the same look-ups -/

/-- Every name leads to the same value in both objects. -/
def Members.SameLookups (first second : Members) : Prop :=
  ∀ name, Members.get? first name = Members.get? second name

theorem Members.SameLookups.has {first second : Members} (same : first.SameLookups second)
    (name : String) : Members.has first name = Members.has second name := by
  rw [Members.has, Members.has, same name]

theorem Members.sameLookups_of_perm {first second : Members} (permuted : first.Perm second)
    (distinct : (Members.keys first).Nodup) : first.SameLookups second := by
  intro name
  have keys : (Members.keys first).Perm (Members.keys second) := permuted.map _
  cases found : Members.get? first name with
  | none =>
      have absent := Members.get?_eq_none_iff.mp found
      exact (Members.get?_eq_none_iff.mpr fun present => absent (keys.mem_iff.mpr present)).symm
  | some value =>
      have among := permuted.mem_iff.mp (Members.mem_of_lookup found)
      exact (Members.lookup_of_mem (keys.nodup_iff.mp distinct) among).symm

/-- Two nodes are the same, or objects with the same look-ups. -/
inductive Node.Resembles : Node → Node → Prop where
  | same (node : Node) : Resembles node node
  | object {first second : Members} :
      first.SameLookups second → Resembles (.object first) (.object second)

namespace Node.Resembles

variable {first second : Node}

theorem get? (resembles : first.Resembles second) (name : String) :
    first.get? name = second.get? name := by
  cases resembles with
  | same => rfl
  | object same => exact same name

theorem members? (resembles : first.Resembles second) :
    Option.Rel Members.SameLookups first.members? second.members? := by
  cases resembles with
  | same =>
      cases first.members? with
      | none => exact .none
      | some members => exact .some fun _ => rfl
  | object same => exact .some same

theorem option_members? {first? second? : Option Node}
    (related : Option.Rel Resembles first? second?) :
    Option.Rel Members.SameLookups (first?.bind Node.members?) (second?.bind Node.members?) := by
  cases related with
  | none => exact .none
  | some resembles => exact resembles.members?

theorem option_refl (node? : Option Node) : Option.Rel Resembles node? node? := by
  cases node? with
  | none => exact .none
  | some node => exact .some (.same node)

theorem descend? (resembles : first.Resembles second) (names : List String) :
    Agree (Option.Rel Resembles) (descend? names first) (descend? names second) := by
  cases resembles with
  | same => exact .refl option_refl _
  | object same =>
      cases names with
      | nil => exact .ok (.some (.object same))
      | cons name rest =>
          rw [ApiReview.descend?, ApiReview.descend?, same name]
          exact .refl option_refl _

end Node.Resembles

/-! ## Reordered paths -/

/-- Two documents with the same members but for the order of the paths. -/
structure Reordered (first second firstPaths secondPaths : Members) : Prop where
  held : Members.get? first "paths" = some (.object firstPaths)
  heldThere : Members.get? second "paths" = some (.object secondPaths)
  permuted : firstPaths.Perm secondPaths
  distinct : (Members.keys firstPaths).Nodup
  rest : ∀ name, name ≠ "paths" → Members.get? first name = Members.get? second name

namespace Reordered

variable {first second firstPaths secondPaths : Members}

theorem symm (reordered : Reordered first second firstPaths secondPaths) :
    Reordered second first secondPaths firstPaths where
  held := reordered.heldThere
  heldThere := reordered.held
  permuted := reordered.permuted.symm
  distinct := (reordered.permuted.map _).nodup_iff.mp reordered.distinct
  rest name other := (reordered.rest name other).symm

theorem pathItems (reordered : Reordered first second firstPaths secondPaths) :
    pathItems first = firstPaths := by
  rw [ApiReview.pathItems, reordered.held]
  rfl

variable (reordered : Reordered first second firstPaths secondPaths)

include reordered

/-- A member of both documents is the same, or the paths. -/
theorem member (name : String) :
    Option.Rel Node.Resembles (Members.get? first name) (Members.get? second name) := by
  by_cases isPaths : name = "paths"
  · rw [isPaths, reordered.held, reordered.heldThere]
    exact .some (.object (Members.sameLookups_of_perm reordered.permuted reordered.distinct))
  · rw [reordered.rest name isPaths]
    exact Node.Resembles.option_refl _

theorem follow? (reference : String) :
    Agree (Option.Rel Node.Resembles) (follow? (.object first) reference)
      (follow? (.object second) reference) := by
  unfold ApiReview.follow?
  cases split : Address.referenceNames? reference with
  | none => exact .ok .none
  | some names =>
      cases names with
      | nil =>
          -- a local reference has a token at least, so that it never means the whole document
          unfold Address.referenceNames? at split
          split at split
          · simp at split
          · cases split
      | cons name rest =>
          have related := reordered.member name
          simp only [descend?]
          generalize Members.get? first name = here, Members.get? second name = there at related ⊢
          cases related with
          | none => exact .ok .none
          | some resembles => exact resembles.descend? rest

theorem resolve? (limit : Nat) {node other : Node} (resembles : node.Resembles other) :
    Agree (Option.Rel Node.Resembles) (resolve? (.object first) limit node)
      (resolve? (.object second) limit other) := by
  induction limit generalizing node other with
  | zero => exact .ok .none
  | succ limit ih =>
      unfold ApiReview.resolve?
      rw [resembles.get?]
      split
      · exact .ok (.some resembles)
      · refine (reordered.follow? _).bind fun target? other? related => ?_
        cases related with
        | none => exact .ok .none
        | some target => exact ih target
      · exact .ok .none

end Reordered

/-! ## Parameters -/

/-- Parameters that differ at most in the order of the members of their definitions. -/
inductive Parameter.Resembles : Parameter → Parameter → Prop where
  | mk (name : String) (location : Node) (address : String) (reference? : Option String)
      {first second : Members} :
      first.SameLookups second →
      Resembles ⟨name, location, first, address, reference?⟩
        ⟨name, location, second, address, reference?⟩

/-- Operations that differ at most in the order of members of their parameters' definitions. -/
inductive Operation.Resembles : Operation → Operation → Prop where
  | mk (path method : String) (definition pathItem : Members) {first second : List Parameter} :
      List.Forall₂ Parameter.Resembles first second →
      Resembles ⟨path, method, definition, pathItem, first⟩
        ⟨path, method, definition, pathItem, second⟩

theorem Parameter.Resembles.refl (parameter : Parameter) : parameter.Resembles parameter :=
  .mk _ _ _ _ fun _ => rfl

theorem Operation.Resembles.refl (operation : Operation) : operation.Resembles operation :=
  .mk _ _ _ _ (List.forall₂_same.mpr fun parameter _ => .refl parameter)

theorem any_of_forall₂ {First Second : Type} {related : First → Second → Prop}
    {firsts : List First} {seconds : List Second} {test : First → Bool} {other : Second → Bool}
    (aligned : List.Forall₂ related firsts seconds)
    (same : ∀ first second, related first second → test first = other second) :
    firsts.any test = seconds.any other := by
  induction aligned with
  | nil => rfl
  | cons here _ ih => rw [List.any_cons, List.any_cons, same _ _ here, ih]

theorem putParameter_resembles {firsts seconds : List Parameter} {first second : Parameter}
    (aligned : List.Forall₂ Parameter.Resembles firsts seconds) (resembles : first.Resembles second) :
    List.Forall₂ Parameter.Resembles (putParameter firsts first) (putParameter seconds second) := by
  have slots : ∀ present other, Parameter.Resembles present other →
      present.sameSlot first = other.sameSlot second := by
    rintro _ _ ⟨_, _, _, _, _⟩
    cases resembles
    rfl
  unfold putParameter
  rw [any_of_forall₂ aligned slots]
  split
  · refine List.rel_map (fun present other here => ?_) aligned
    rw [slots present other here]
    split
    · exact resembles
    · exact here
  · exact List.rel_append aligned (.cons resembles .nil)

def operationsOfMember (spec : Node) : Key × Node → Except Fault (List Operation)
  | (key, .object pathItem) => operationsOfItem spec key.display pathItem
  | _ => .ok []

theorem operationsOf_object (root : Members) :
    operationsOf (.object root) = (do
      let operations ← (pathItems root).mapM (operationsOfMember (.object root))
      .ok operations.flatten) := by
  unfold operationsOf
  refine congrArg (fun read => (pathItems root).mapM read >>= fun operations =>
    Except.ok operations.flatten) (funext fun member => ?_)
  obtain ⟨key, value⟩ := member
  cases value <;> rfl

section Operations

variable {first second firstPaths secondPaths : Members}
  (reordered : Reordered first second firstPaths secondPaths)

include reordered

theorem agree_parameter? (path : String) (method? : Option String) (item : Node) :
    Agree (Option.Rel Parameter.Resembles) (parameter? (.object first) path method? item)
      (parameter? (.object second) path method? item) := by
  unfold parameter?
  split
  · refine (reordered.resolve? referenceLimit (.same _)).bind fun target? other? related => ?_
    have definitions := Node.Resembles.option_members? related
    generalize target?.bind Node.members? = here, other?.bind Node.members? = there at definitions ⊢
    cases definitions with
    | none => exact .ok .none
    | some same =>
        simp only [same "name", same "in"]
        split
        · exact .ok .none
        · exact .ok (.some (.mk _ _ _ _ same))
  · exact .ok .none

theorem agree_addParameters (path : String) (method? : Option String) (items : List Node)
    {firsts seconds : List Parameter} (aligned : List.Forall₂ Parameter.Resembles firsts seconds) :
    Agree (List.Forall₂ Parameter.Resembles)
      (addParameters (.object first) path method? firsts items)
      (addParameters (.object second) path method? seconds items) := by
  unfold addParameters
  induction items generalizing firsts seconds with
  | nil => exact .ok aligned
  | cons item items ih =>
      rw [List.foldlM_cons, List.foldlM_cons]
      refine Agree.bind ?_ fun _ _ aligned => ih aligned
      refine (agree_parameter? reordered path method? item).bind fun added? other? related => ?_
      cases related with
      | none => exact .ok aligned
      | some resembles =>
          have put := putParameter_resembles aligned resembles
          cases resembles with
          | mk name location address reference? same =>
              cases location with
              | list _ => exact .failed _
              | object _ => exact .failed _
              | _ => exact .ok put

theorem agree_parametersOf (path : String) (pathItem : Members) (method : String)
    (operation : Members) :
    Agree (List.Forall₂ Parameter.Resembles)
      (parametersOf (.object first) path pathItem method operation)
      (parametersOf (.object second) path pathItem method operation) := by
  unfold parametersOf
  refine Agree.bind_same fun items => ?_
  refine (agree_addParameters reordered path none items .nil).bind fun _ _ aligned => ?_
  refine Agree.bind_same fun items => ?_
  exact agree_addParameters reordered path (some method) items aligned

theorem agree_operationsOfItem (path : String) (pathItem : Members) :
    Agree (List.Forall₂ Operation.Resembles) (operationsOfItem (.object first) path pathItem)
      (operationsOfItem (.object second) path pathItem) := by
  unfold operationsOfItem
  refine Agree.bind (agree_mapM fun member _ => ?_) fun firsts seconds aligned =>
    .ok (List.rel_filterMap (fun _ _ related => related) aligned)
  · obtain ⟨key, value⟩ := member
    cases key with
    | str method =>
        cases value with
        | object definition =>
            simp only
            split
            · refine (agree_parametersOf reordered path pathItem _ definition).bind
                fun _ _ aligned => ?_
              exact .ok (.some (.mk _ _ _ _ aligned))
            · exact .ok .none
        | _ => exact .ok .none
    | _ => exact .failed _

theorem agree_operationsOfMember (member : Key × Node) :
    Agree (List.Forall₂ Operation.Resembles) (operationsOfMember (.object first) member)
      (operationsOfMember (.object second) member) := by
  obtain ⟨key, value⟩ := member
  cases value with
  | object pathItem => exact agree_operationsOfItem reordered key.display pathItem
  | _ => exact .ok .nil

/-- The operations of both documents are the same in some order, up to the order of members. -/
theorem operationsOf_reordered {operations : List Operation}
    (read : operationsOf (.object first) = .ok operations) :
    ∃ others, operationsOf (.object second) = .ok others ∧
      PermutedBy Operation.Resembles operations others := by
  rw [operationsOf_object, reordered.pathItems] at read
  rw [operationsOf_object, reordered.symm.pathItems]
  obtain ⟨groups, walked, shape⟩ := bind_ok read
  cases shape
  have agree := agree_mapM fun member (_ : member ∈ firstPaths) =>
    agree_operationsOfMember reordered member
  rw [walked] at agree
  generalize again : firstPaths.mapM (operationsOfMember (.object second)) = walk at agree
  cases agree with
  | ok aligned =>
      obtain ⟨others, permuted, same⟩ := mapM_perm reordered.permuted again
      rw [permuted]
      exact ⟨_, rfl, _, List.rel_flatten aligned, same.flatten⟩

end Operations

/-! ## Singletons -/

section Singletons

variable {first second : List String}

namespace Path

theorem declaredSingletons_perm (permuted : first.Perm second) :
    (declaredSingletons first).Perm (declaredSingletons second) := by
  unfold declaredSingletons
  simp only [permuted.any_eq]
  exact permuted.filter _

theorem undeclaredSingletons_perm (permuted : first.Perm second) :
    (undeclaredSingletons first).Perm (undeclaredSingletons second) := by
  unfold undeclaredSingletons
  simp only [permuted.any_eq, permuted.contains_eq]
  exact (permuted.filter _).flatMap_right _

theorem mem_singletons_perm (permuted : first.Perm second) (path : String) :
    path ∈ singletons first ↔ path ∈ singletons second := by
  unfold singletons
  rw [List.mem_eraseDups, List.mem_eraseDups]
  exact ((declaredSingletons_perm permuted).append (undeclaredSingletons_perm permuted)).mem_iff

end Path
end Singletons

theorem names?_cons (member : Key × Node) (rest : Members) :
    Members.names? (member :: rest) =
      (Members.names? [member]).bind fun here => (Members.names? rest).map fun later => here ++ later := by
  obtain ⟨key, value⟩ := member
  cases key with
  | str name =>
      have read : Members.names? ((.str name, value) :: rest) =
          (Members.names? rest).map (name :: ·) := by
        rw [Members.names?, List.mapM_cons, ← Members.names?]
        cases Members.names? rest <;> rfl
      rw [read]
      rfl
  | _ => rfl

theorem names?_perm {first second : Members} {names : List String} (permuted : first.Perm second)
    (read : Members.names? first = some names) :
    ∃ others, Members.names? second = some others ∧ names.Perm others := by
  induction permuted generalizing names with
  | nil => exact ⟨names, read, .refl _⟩
  | cons member _ ih =>
      rw [names?_cons] at read
      obtain ⟨here, named, read⟩ := Option.bind_eq_some_iff.mp read
      obtain ⟨later, behind, rfl⟩ := Option.map_eq_some_iff.mp read
      obtain ⟨others, again, same⟩ := ih behind
      exact ⟨here ++ others, by rw [names?_cons, named, again]; rfl, same.append_left here⟩
  | swap left right rest =>
      rw [names?_cons] at read
      obtain ⟨here, named, read⟩ := Option.bind_eq_some_iff.mp read
      obtain ⟨behind, walked, rfl⟩ := Option.map_eq_some_iff.mp read
      rw [names?_cons] at walked
      obtain ⟨next, namedNext, walked⟩ := Option.bind_eq_some_iff.mp walked
      obtain ⟨later, last, rfl⟩ := Option.map_eq_some_iff.mp walked
      refine ⟨next ++ (here ++ later), ?_, ?_⟩
      · rw [names?_cons, namedNext, names?_cons, named, last]
        rfl
      · rw [← List.append_assoc, ← List.append_assoc]
        exact List.perm_append_comm.append_right later
  | trans _ _ firstIH secondIH =>
      obtain ⟨middle, again, same⟩ := firstIH read
      obtain ⟨others, last, further⟩ := secondIH again
      exact ⟨others, last, same.trans further⟩

theorem singletons_object {root paths : Members}
    (held : Members.get? root "paths" = some (.object paths)) :
    (Node.object root).singletons =
      match Members.names? paths with
      | some names => .ok (Path.singletons names)
      | none => .error .wrongKind := by
  have read : Node.optional (some (.object paths)) = .object paths := by
    cases paths <;> rfl
  rw [Node.singletons]
  cases names : Members.names? paths <;>
    simp only [Node.asObject, bind, Except.bind, held, read, names]

/-- The singletons of both documents are the same, in some order. -/
theorem singletons_reordered {first second firstPaths secondPaths : Members}
    (reordered : Reordered first second firstPaths secondPaths) {singletons : List String}
    (inferred : (Node.object first).singletons = .ok singletons) :
    ∃ others, (Node.object second).singletons = .ok others ∧
      ∀ path, path ∈ singletons ↔ path ∈ others := by
  rw [singletons_object reordered.held] at inferred
  rw [singletons_object reordered.heldThere]
  cases read : Members.names? firstPaths with
  | none =>
      rw [read] at inferred
      cases inferred
  | some names =>
      rw [read] at inferred
      cases inferred
      obtain ⟨others, again, permuted⟩ := names?_perm reordered.permuted read
      rw [again]
      exact ⟨_, rfl, Path.mem_singletons_perm permuted⟩

end ApiReview
