import ApiReview.Proofs.Fix.Targets
import ApiReview.Proofs.Patch.Again
import ApiReview.Proofs.Patch.Faults
import ApiReview.Proofs.Patch.Pointer

/-! Renaming a key of the paths or of the responses of an operation. Which keys the
object has decides between three endings: the key takes its new name in its place,
nothing is left to do, or the change is refused. No name of a path or of a key is
special, and nothing but the one key changes. -/

set_option autoImplicit false

namespace ApiReview

open ApiReview.Address ApiReview.Text

variable {change : Change} {document : Node} {members front back : Members} {old new : String}
  {names : List String} {last : String}

/-! ## Renamed members -/

private theorem renameKey_of_not_mem {old new : Key} (absent : old ∉ Members.keys members) :
    Members.renameKey old new members = members := by
  refine Eq.trans (List.map_congr_left fun member among => ?_) (List.map_id members)
  obtain ⟨key, value⟩ := member
  have other : key ≠ old := by
    intro same
    exact absent (same ▸ Members.mem_keys_of_mem among)
  exact Prod.ext (if_neg other) rfl

/-- Among distinct keys, one is renamed and the members in front of it and behind it stay. -/
theorem Members.renameKey_between {old new : Key} {value : Node}
    (distinct : (keys (front ++ (old, value) :: back)).Nodup) :
    renameKey old new (front ++ (old, value) :: back) = front ++ (new, value) :: back := by
  have split : keys (front ++ (old, value) :: back) = keys front ++ old :: keys back := by
    simp [keys]
  rw [split, List.nodup_append] at distinct
  obtain ⟨_, behind, apart⟩ := distinct
  have before : old ∉ keys front := by
    intro among
    exact apart old among old List.mem_cons_self rfl
  have after : old ∉ keys back := (List.nodup_cons.mp behind).1
  have whole : renameKey old new (front ++ (old, value) :: back) =
      renameKey old new front ++ (new, value) :: renameKey old new back := by
    simp [renameKey]
  rw [whole, renameKey_of_not_mem before, renameKey_of_not_mem after]

/-- A key is renamed in an object under a name that does not stand for the end of a list. -/
theorem Edit.renameKey_names (inside : last ≠ "-")
    (reached : document.at? ((names ++ [last]).map .name) = some (.object members)) :
    (Edit.renameKey (tokensOf ((names ++ [last]).map .name)) old new).apply document =
      .ok (Node.graft (.object (Members.renameKey (.str old) (.str new) members))
        ((names ++ [last]).map .name) document) := by
  have read : document.partAt (tokensOf ((names ++ [last]).map .name)) = .ok (.object members) :=
    Node.partAt_of_readable (List.forall_mem_map.mpr fun _ _ => rfl) reached
  have path : tokensOf ((names ++ [last]).map .name) = names ++ [last] := by
    simp [tokensOf, Part.token, Function.comp_def]
  have whole : (names ++ [last]).map Part.name = names.map .name ++ [.name last] := by simp
  have found := reached
  rw [whole] at found
  obtain ⟨held, owner, stepped⟩ := Node.exists_object_of_member found
  let renamed := Node.object (Members.renameKey (.str old) (.str new) members)
  have possible : Shape.replace renamed last (Node.object held).shape =
      .ok (.object (Members.put (.str last) renamed held)) := by
    have present : Members.has held last = true := by
      rw [Members.has, stepped]
      rfl
    rw [Shape.replace, if_neg inside, Node.shape, Shape.withChild, if_pos present]
  have made := Node.editAt_names owner possible
  obtain ⟨first, more, nonempty⟩ := List.exists_cons_of_ne_nil
    (show names ++ [last] ≠ [] by simp)
  have replaced : Node.replaceAt renamed (names ++ [last]) document =
      document.editAt (Shape.replace renamed) (names ++ [last]) := by
    rw [nonempty]
    rfl
  rw [Edit.apply, read, path]
  change Node.replaceAt renamed (names ++ [last]) document = _
  rw [replaced, made, whole, Node.graft_append_of_some owner]
  rfl

/-! ## The change -/

/-- An address under which keys are renamed, and the way that it means: the paths of a document,
or the responses of an operation. -/
inductive Address.IsKeyed : String → List String → Prop
  | paths : IsKeyed "$.paths" ["paths"]
  | responses (path : String) {method : String} : isMethodKey method = true →
      IsKeyed (ofResponses path method) ["paths", path, lower method, "responses"]

namespace Address.IsKeyed

variable {text : String} (keyed : IsKeyed text names)

include keyed

theorem locate_eq (document : Node) : locate document text = .ok (names.map .name) := by
  cases keyed with
  | paths =>
      have written : IsWritten "$.paths" [.bare "paths"] := rfl
      exact locate_words written rfl (by decide) document
  | responses path method =>
      exact locate_operationPart method path document (isWritten_ofResponses path _) rfl (by decide)

theorem exists_last : ∃ front last, names = front ++ [last] ∧ last ≠ "-" := by
  cases keyed with
  | paths => exact ⟨[], "paths", rfl, by decide⟩
  | responses path method => exact ⟨["paths", path, _], "responses", rfl, by decide⟩

end Address.IsKeyed

/-- A key that is there takes a new name that is free, in its place and with its value, and the
rest of the document stays. Where only the new name is there the document stays as it is. In all
other cases, and where no object is addressed, the change is refused. -/
theorem rename_exact (named : document.isNamed = true) (kind : change.kind = .renameKey)
    (keyed : IsKeyed change.address names) (source : change.from? = some old)
    (target : change.to? = some new) :
    (∀ front value back,
      document.at? (names.map .name) = some (.object (front ++ (.str old, value) :: back)) →
      Key.str new ∉ Members.keys (front ++ (.str old, value) :: back) →
      change.apply document =
          .ok (Node.graft (.object (front ++ (.str new, value) :: back)) (names.map .name) document) ∧
        (Node.object (front ++ (.str new, value) :: back)).isNamed = true) ∧
    (∀ members, document.at? (names.map .name) = some (.object members) →
      Key.str old ∉ Members.keys members → Key.str new ∈ Members.keys members →
      change.apply document = .ok document) ∧
    ((∀ members, document.at? (names.map .name) = some (.object members) →
        (Key.str old ∈ Members.keys members ↔ Key.str new ∈ Members.keys members)) →
      ∃ error, change.apply document = .error (.refused error)) := by
  have located : change.locate document = .ok (names.map .name) :=
    congrArg (Except.mapError _) (keyed.locate_eq document)
  have reached : document.at? [] = some document := rfl
  refine ⟨?_, ?_, ?_⟩
  · intro front value back found free
    have owner := Node.isNamed_of_at? named found
    have absent := Members.has_eq_false_iff.mpr free
    have present : Members.has (front ++ (.str old, value) :: back) old = true := by
      rw [Members.has_iff]
      simp [Members.keys]
    have between : Members.renameKey (.str old) (.str new) (front ++ (.str old, value) :: back) =
        front ++ (.str new, value) :: back :=
      Members.renameKey_between (Node.distinct_of_isNamed owner)
    have planned := (Change.plan_rename_iff kind source target located reached).mpr
      ⟨_, found, .inr ⟨present, absent, rfl⟩⟩
    obtain ⟨above, last, rfl, inside⟩ := keyed.exists_last
    refine ⟨Change.apply_of_plan planned ?_, ?_⟩
    · rw [List.nil_append, Edit.applyAll, List.foldlM_cons, Edit.renameKey_names inside found, between]
      rfl
    · rw [← between]
      exact Node.isNamed_renameKey owner absent
  · intro members found gone there
    rw [← Members.has_eq_false_iff] at gone
    rw [← Members.has_iff] at there
    exact Change.rename_done kind source target located found gone there
  · intro both_or_neither
    rcases Change.plan_ok_or_refused located (Node.lookup?_names names document) with
      ⟨edits, planned⟩ | ⟨error, refused⟩
    · obtain ⟨members, found, either⟩ :=
        (Change.plan_rename_iff kind source target located reached).mp planned
      have same := both_or_neither members found
      rw [← Members.has_iff, ← Members.has_iff] at same
      rcases either with ⟨gone, there, _⟩ | ⟨there, free, _⟩
      · rw [gone, there] at same
        cases same.mpr rfl
      · rw [there, free] at same
        cases same.mp rfl
    · exact ⟨error, Change.apply_refused refused⟩

def markedPaths : Node :=
  .object [(.str "paths", .object [(.str "/a", .int 1), (.str "it's/~1", .int 2), (.str "-", .int 3)]),
    (.str "info", .null)]

theorem rename_exact_marked :
    (Change.mk .renameKey "$.paths" (some "it's/~1") (some "/b") .null).apply markedPaths =
        .ok (.object [(.str "paths", .object [(.str "/a", .int 1), (.str "/b", .int 2),
          (.str "-", .int 3)]), (.str "info", .null)]) ∧
      (Change.mk .renameKey "$.paths" (some "/b") (some "-") .null).apply markedPaths =
        .ok markedPaths ∧
      ∃ error, (Change.mk .renameKey "$.paths" (some "/a") (some "-") .null).apply markedPaths =
        .error (.refused error) := by
  have named : markedPaths.isNamed = true := by decide
  have found : markedPaths.at? (["paths"].map .name) = some (.object ([(.str "/a", .int 1)] ++
      (.str "it's/~1", .int 2) :: [(.str "-", .int 3)])) := rfl
  refine ⟨?_, ?_, ?_⟩
  · exact ((rename_exact named rfl .paths rfl rfl).1 _ _ _ found (by decide)).1
  · exact (rename_exact named rfl .paths rfl rfl).2.1 _ found (by decide) (by decide)
  · refine (rename_exact named rfl .paths rfl rfl).2.2 fun members owner => ?_
    cases found.symm.trans owner
    decide

end ApiReview
