import ApiReview.Fix.Builder
import ApiReview.Proofs.Fix.Places
import ApiReview.Proofs.Patch.Atomicity

/-! Fixes that are applied a second time. Each change of a fix leaves the document
in a state in which the change is in effect, and the address of the change still
leads to its place there; so the fix as a whole does nothing more. The fix that
renames a parameter makes several changes, none of which undoes another. -/

set_option autoImplicit false

namespace ApiReview

open ApiReview.Address ApiReview.Text

variable {document after : Node} {change : Change} {fix : Fix} {way : List Part}

/-! ## Single changes -/

theorem Change.locate_of (located : Address.locate document change.address = .ok way) :
    change.locate document = .ok way := by
  rw [Change.locate, located]
  rfl

/-- A value that was set where a fix sets it is set again without effect. -/
theorem Change.set_replayed (kind : change.kind = .set) (stays : StaysPut change.address)
    (named : document.isNamed = true) (applied : change.apply document = .ok after) :
    change.apply after = .ok after := by
  obtain ⟨edits, planned, -⟩ := apply_ok applied
  rw [plan, kind] at planned
  obtain ⟨way, located, -⟩ := bind_ok planned
  obtain ⟨⟨anchor, base, names, nonempty, reached, rfl⟩, kept⟩ :=
    stays document way named (mapError_ok located)
  obtain ⟨rfl, opened, -⟩ := set_ok kind nonempty located reached applied
  exact set_again kind nonempty located reached applied (locate_of (kept opened _))

/-! ## Renamed parameters -/

/-- A path is renamed: it stands under the new name and not under the old one. -/
structure IsRenamed (document : Node) (old new : String) : Prop where
  paths : ∃ members, document.at? [.name "paths"] = some (.object members)
  gone : document.at? [.name "paths", .name old] = none
  there : ∃ item, document.at? [.name "paths", .name new] = some item

section Renamed

variable {old new : String} {added : Node} {rest : List Part}

/-- The change that renames a path. -/
def renamingPath (old new : String) : Change := ⟨.renameKey, "$.paths", some old, some new, .null⟩

theorem locate_renamingPath (old new : String) (document : Node) :
    (renamingPath old new).locate document = .ok (["paths"].map .name) := by
  have written : IsWritten "$.paths" [.bare "paths"] := rfl
  exact Change.locate_of (locate_words written rfl (by decide) document)

theorem at?_paths {members : Members} (found : document.at? [.name "paths"] = some (.object members))
    (name : String) :
    document.at? [.name "paths", .name name] = Members.get? members name := by
  have split : [Part.name "paths", .name name] = [.name "paths"] ++ [.name name] := rfl
  rw [split, Node.at?_append_of_some found, Node.at?_singleton]
  rfl

theorem isRenamed_of_apply (named : document.isNamed = true)
    (applied : (renamingPath old new).apply document = .ok after) :
    after.isNamed = true ∧ IsRenamed after old new := by
  obtain ⟨afterNamed, members, found, gone, there⟩ :=
    Change.rename_takes rfl rfl rfl named (locate_renamingPath old new document) applied
  rw [Members.has, Option.isSome_iff_exists] at there
  rw [Members.has, Option.isSome_eq_false_iff, Option.isNone_iff_eq_none] at gone
  refine ⟨afterNamed, ⟨members, found⟩, ?_, ?_⟩
  · rw [at?_paths found]
    exact gone
  · rw [at?_paths found]
    exact there

theorem IsRenamed.idle (renamed : IsRenamed document old new) :
    (renamingPath old new).apply document = .ok document := by
  obtain ⟨⟨members, found⟩, gone, item, there⟩ := renamed
  rw [at?_paths found] at gone there
  refine Change.rename_done rfl rfl rfl (locate_renamingPath old new document) found ?_ ?_
  · rw [Members.has, gone]
    rfl
  · rw [Members.has, there]
    rfl

theorem IsRenamed.graft (renamed : IsRenamed document old new) (below : rest ≠ []) :
    IsRenamed (Node.graft added (.name "paths" :: .name new :: rest) document) old new := by
  obtain ⟨⟨members, found⟩, gone, item, there⟩ := renamed
  have different : Part.name new ≠ .name old := by
    rintro same
    rw [same, gone] at there
    cases there
  have apart : ¬ .name "paths" :: .name new :: rest <+: [.name "paths", .name new] := by
    simpa using below
  refine ⟨?_, ?_, ?_⟩
  · obtain ⟨now, reached, alike⟩ := Node.at?_graft_apart added
      (by simp : ¬ .name "paths" :: .name new :: rest <+: [.name "paths"]) found
    obtain ⟨later, rfl, -⟩ := alike.of_object
    exact ⟨later, reached⟩
  · obtain ⟨beside, aside⟩ := beside_of_ne different [.name "paths"] rest []
    exact (Node.at?_graft_beside beside aside).trans gone
  · obtain ⟨now, reached, -⟩ := Node.at?_graft_apart added apart there
    exact ⟨now, reached⟩

end Renamed

/-! ## Renamed definitions -/

/-- The address of a definition in a parameter list of a path or of an operation on it. -/
inductive IsDefinition (path : String) : String → Prop
  | item (method? : Option String) (index : Nat) :
      (∀ method ∈ method?, isMethodKey method = true) →
      Integer.isUnwritable (.ofNat index) = false →
      IsDefinition path (ofParameters path method? ++ Address.item index)

/-- The definition at an address has a name, by itself or in what stands in for it. -/
inductive HasName (document : Node) (path name : String) : String → Prop
  | item (method? : Option String) (index : Nat) :
      (∀ method ∈ method?, isMethodKey method = true) →
      Integer.isUnwritable (.ofNat index) = false →
      IsSettled document (parameterListNames path method?) index "name" (.str name) →
      HasName document path name (ofParameters path method? ++ Address.item index)

section Definitions

variable {path name definition : String} {method? other? : Option String} {index position : Nat}

theorem parameterList_length (path : String) (method? : Option String) :
    3 ≤ (parameterListNames path method?).length := by
  cases method? <;> simp [parameterListNames]

/-- Two parameter lists of a path are the same, or neither is in the other. -/
theorem parameterList_beside (methods : ∀ method ∈ method?, isMethodKey method = true)
    (others : ∀ method ∈ other?, isMethodKey method = true) (path : String) :
    parameterListNames path method? = parameterListNames path other? ∨
      Beside ((parameterListNames path method?).map .name)
        ((parameterListNames path other?).map .name) := by
  have word : ∀ key, isMethodKey key = true → "parameters" ≠ lower key := by
    rintro key method same
    rw [isMethodKey, ← same] at method
    revert method
    decide
  cases method? with
  | none =>
      cases other? with
      | none => exact .inl rfl
      | some other =>
          have different := fun same => word other (others other rfl) (Part.name.inj same)
          exact .inr (beside_of_ne different [.name "paths", .name path] [] [.name "parameters"])
  | some method =>
      cases other? with
      | none =>
          have different := fun same => word method (methods method rfl) (Part.name.inj same).symm
          exact .inr (beside_of_ne different [.name "paths", .name path] [.name "parameters"] [])
      | some other =>
          by_cases same : lower method = lower other
          · exact .inl (by simp [parameterListNames, same])
          · have different := fun equal => same (Part.name.inj equal)
            exact .inr (beside_of_ne different [.name "paths", .name path] [.name "parameters"]
              [.name "parameters"])

theorem below_of_isItemPlace {place : List Part}
    (item : IsItemPlace (parameterListNames path method?) index "name" place) :
    ∃ rest, rest ≠ [] ∧ place = .name "paths" :: .name path :: rest := by
  rcases item with rfl | rfl
  · exact ⟨_, by simp, rfl⟩
  · exact ⟨_, by simp, rfl⟩

theorem HasName.idle (has : HasName document path name definition)
    (named : document.isNamed = true) :
    (Fix.renameDefinition name definition).apply document = .ok document := by
  cases has with
  | item method? index methods readable settled =>
      exact Change.set_settled_idle rfl
        (Change.locate_of (locate_definitionName methods path readable document)) named
        (parameterList_length path method?) readable settled

/-- The state of a document in which a path and some definitions are renamed. -/
structure AreRenamed (document : Node) (old new name : String) (definitions : List String) :
    Prop where
  named : document.isNamed = true
  path : IsRenamed document old new
  definitions : ∀ definition ∈ definitions, HasName document new name definition

theorem AreRenamed.step {old new : String} {done : List String}
    (renamed : AreRenamed document old new name done) (defines : IsDefinition new definition)
    (applied : (Fix.renameDefinition name definition).apply document = .ok after) :
    AreRenamed after old new name (definition :: done) := by
  obtain ⟨named, path, settled⟩ := renamed
  cases defines with
  | item method? index methods readable =>
      have located : (Fix.renameDefinition name _).locate document = .ok _ :=
        Change.locate_of (locate_definitionName methods new readable document)
      obtain ⟨afterNamed, here, place, added, itemPlace, opened, rfl⟩ :=
        Change.set_settles rfl located named rfl (by simp [parameterListNames]) applied
      refine ⟨afterNamed, ?_, fun definition among => ?_⟩
      · obtain ⟨rest, below, rfl⟩ := below_of_isItemPlace itemPlace
        exact path.graft below
      · rcases List.mem_cons.mp among with rfl | among
        · exact .item method? index methods readable here
        · -- what is set here lies beside the places of every other definition
          cases settled definition among with
          | item other? position others readableOther settledOther =>
              refine .item other? position others readableOther ?_
              rcases parameterList_beside methods others new with same | apart
              · by_cases equal : index = position
                · rw [← same, ← equal]
                  exact here
                · refine settledOther.graft (fun way itemPlaceOther => ?_) added
                  exact beside_of_other_item equal itemPlace (same ▸ itemPlaceOther)
              · refine settledOther.graft (fun way itemPlaceOther => ?_) added
                exact beside_of_other_list apart itemPlace itemPlaceOther

theorem AreRenamed.walk {old new : String} {definitions done : List String}
    (renamed : AreRenamed document old new name done)
    (define : ∀ definition ∈ definitions, IsDefinition new definition)
    (applied : Change.applyAll (definitions.map (Fix.renameDefinition name)) document = .ok after) :
    AreRenamed after old new name (definitions.reverse ++ done) := by
  induction definitions generalizing document done with
  | nil =>
      cases applied
      exact renamed
  | cons definition definitions ih =>
      rw [List.map_cons, Change.applyAll_cons] at applied
      obtain ⟨next, stepped, applied⟩ := bind_ok applied
      have further := renamed.step (define definition List.mem_cons_self) stepped
      have later := ih further (fun other among => define other (List.mem_cons_of_mem _ among))
        applied
      rw [List.reverse_cons, List.append_assoc]
      exact later

theorem renameParameter_replayed {old new : String} {definitions : List String}
    (define : ∀ definition ∈ definitions, IsDefinition new definition)
    (named : document.isNamed = true)
    (applied : Change.applyAll (renamingPath old new :: definitions.map (Fix.renameDefinition name))
      document = .ok after) :
    ∀ change ∈ renamingPath old new :: definitions.map (Fix.renameDefinition name),
      change.apply after = .ok after := by
  rw [Change.applyAll_cons] at applied
  obtain ⟨renamed, first, applied⟩ := bind_ok applied
  obtain ⟨renamedNamed, path⟩ := isRenamed_of_apply named first
  have start : AreRenamed renamed old new name [] := ⟨renamedNamed, path, by simp⟩
  obtain ⟨afterNamed, path, settled⟩ := start.walk define applied
  intro change among
  rcases List.mem_cons.mp among with rfl | among
  · exact path.idle
  · obtain ⟨definition, listed, rfl⟩ := List.mem_map.mp among
    exact (settled definition (by simpa using listed)).idle afterNamed

end Definitions

/-! ## Fixes -/

/-- A fix that one of the builders of fixes makes. -/
inductive Fix.IsBuilt : Fix → Prop
  | renamePath (path newPath : String) (target? : Option Members) (replacement : Node)
      (kind : FixKind) : IsBuilt (renamePath path newPath target? replacement kind [])
  | renameParameter (path newPath oldName newName : String) {definitions : List String} :
      (∀ definition ∈ definitions, IsDefinition newPath definition) →
      IsBuilt (renameParameter path newPath oldName newName definitions)
  | removeRequestBody (path : String) {method : String} : isMethodKey method = true →
      IsBuilt (removeRequestBody path method)
  | changeStatusCode (path current suggested : String) {method : String} :
      isMethodKey method = true → IsBuilt (changeStatusCode path method current suggested)
  | addParameters (path : String) {method : String} {parameters : List Node} {fix : Fix} :
      isMethodKey method = true → Node.areJson parameters = true →
      addParameters path method parameters = .ok fix → IsBuilt fix
  | setSchemaConstraint {schema constraint : String} (value : Node) (target : Members) :
      IsSchemaAddress schema → isBareWord constraint.toList = true →
      IsBuilt (setSchemaConstraint schema constraint value target)
  | addSchema (name : String) (schema : Node) : IsBuilt (addSchema name schema)
  | addSchemaProperty {schema : String} (name : String) (property : Node) :
      IsSchemaAddress schema → IsBuilt (addSchemaProperty schema name property)
  | addResponse (path code : String) (response : Node) {method : String} :
      isMethodKey method = true → IsBuilt (addResponse path method code response)
  | addOperation (path : String) (operation : Node) (basedOn? : Option String) {method : String} :
      isMethodKey method = true → IsBuilt (addOperation path method operation basedOn?)

section Fixes

variable {path method : String} (isMethod : isMethodKey method = true)

include isMethod

theorem removeRequestBody_replayed (named : document.isNamed = true)
    (kind : change.kind = .remove) (address : change.address = ofRequestBody path method)
    (applied : change.apply document = .ok after) : change.apply after = .ok after := by
  have located : ∀ document, change.locate document =
      .ok ((["paths", path, lower method] ++ ["requestBody"]).map .name) := by
    intro document
    refine Change.locate_of (address ▸ ?_)
    exact locate_operationPart isMethod path document (isWritten_ofRequestBody path method) rfl
      (by decide)
  exact Change.remove_again kind named located applied

theorem changeStatusCode_replayed {current suggested : String} (named : document.isNamed = true)
    (kind : change.kind = .renameKey) (address : change.address = ofResponses path method)
    (source : change.from? = some current) (target : change.to? = some suggested)
    (applied : change.apply document = .ok after) : change.apply after = .ok after := by
  have located : ∀ document, change.locate document =
      .ok (["paths", path, lower method, "responses"].map .name) := by
    intro document
    refine Change.locate_of (address ▸ ?_)
    exact locate_operationPart isMethod path document (isWritten_ofResponses path method) rfl
      (by decide)
  obtain ⟨-, members, found, gone, there⟩ :=
    Change.rename_takes kind source target named (located document) applied
  exact Change.rename_done kind source target (located after) found gone there

theorem addParameters_replayed {parameters : List Node} (json : Node.areJson parameters = true)
    (kind : change.kind = .merge) (address : change.address = ofParameters path (some method))
    (value : change.value = .list parameters)
    (applied : change.apply document = .ok after) : change.apply after = .ok after := by
  have located : ∀ document, change.locate document =
      .ok ((["paths", path, lower method] ++ ["parameters"]).map .name) := by
    intro document
    refine Change.locate_of (address ▸ ?_)
    exact locate_operationPart isMethod path document
      (isWritten_ofParameters (isMethodKey_isEmpty isMethod) path) rfl (by decide)
  exact Change.merge_again kind value json rfl (by decide) located applied

omit isMethod

theorem changes_addParameters {parameters : List Node}
    (built : Fix.addParameters path method parameters = .ok fix) :
    fix.changes =
      [{ kind := .merge, address := ofParameters path (some method), value := .list parameters }] := by
  obtain ⟨names, -, built⟩ := bind_ok built
  split at built
  · cases built
  · cases built
    rfl
  · cases built
    rfl

/-- Where the changes of a built fix were made, each is made again without effect. -/
theorem Fix.IsBuilt.idle (built : fix.IsBuilt) (named : document.isNamed = true)
    (applied : Change.applyAll fix.changes document = .ok after) :
    ∀ change ∈ fix.changes, change.apply after = .ok after := by
  -- every fix but the renaming of a parameter makes a single change
  have single : ∀ change : Change, fix.changes = [change] →
      (change.apply document = .ok after → change.apply after = .ok after) →
      ∀ change ∈ fix.changes, change.apply after = .ok after := by
    intro change changes again other among
    rw [changes] at applied among
    cases List.mem_singleton.mp among
    exact again (Change.applyAll_singleton applied)
  cases built with
  | renamePath path newPath target? replacement kind =>
      exact single _ rfl fun applied => (isRenamed_of_apply named applied).2.idle
  | renameParameter path newPath oldName newName define =>
      exact renameParameter_replayed define named applied
  | removeRequestBody path isMethod =>
      exact single _ rfl (removeRequestBody_replayed isMethod named rfl rfl)
  | changeStatusCode path current suggested isMethod =>
      exact single _ rfl (changeStatusCode_replayed isMethod named rfl rfl rfl rfl)
  | addParameters path isMethod json built =>
      exact single _ (changes_addParameters built) (addParameters_replayed isMethod json rfl rfl rfl)
  | setSchemaConstraint value target address word =>
      have stays := address.staysPut (isTail_bare word)
      rw [← String.append_assoc] at stays
      exact single _ rfl (Change.set_replayed rfl stays named)
  | addSchema name schema =>
      exact single _ rfl (Change.set_replayed rfl (staysPut_ofSchema name) named)
  | addSchemaProperty name property address =>
      have stays := address.staysPut (isTail_property name)
      rw [← String.append_assoc] at stays
      exact single _ rfl (Change.set_replayed rfl stays named)
  | addResponse path code response isMethod =>
      exact single _ rfl (Change.set_replayed rfl (staysPut_ofResponse isMethod path code) named)
  | addOperation path operation basedOn? isMethod =>
      exact single _ rfl (Change.set_replayed rfl (staysPut_ofOperation isMethod path) named)

theorem tryChanges_idle {changes : List Change}
    (idle : ∀ change ∈ changes, change.apply document = .ok document) :
    tryChanges document changes = .ok (some document, changes.map .made) := by
  induction changes with
  | nil => rfl
  | cons change changes ih =>
      have later := ih fun other among => idle other (List.mem_cons_of_mem _ among)
      rw [tryChanges, idle change List.mem_cons_self]
      simp only [later]
      rfl

end Fixes

/-- Renames a parameter in a path and in its definition at an operation. -/
def renamedIdentifier : Fix :=
  Fix.renameParameter "/users/{id}" "/users/{user_id}" "id" "user_id"
    [ofParameters "/users/{user_id}" (some "get") ++ Address.item 0]

/-- A document with an operation that takes an identifier. -/
def userById : Node :=
  .object [(.str "paths", .object [(.str "/users/{id}", .object [(.str "get", .object
    [(.str "parameters", .list [.object [(.str "name", .str "id"), (.str "in", .str "path")]])])])])]

end ApiReview
