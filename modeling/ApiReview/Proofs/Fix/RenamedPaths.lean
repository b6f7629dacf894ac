import ApiReview.Proofs.Fix.Replay

/-! Fixes that rename the paths of a document, many of them in a row. Several
findings may carry the same renaming; the first of them makes it, and the others
find it made. As long as no new path is there before, or comes from two old ones,
all of them are applied, and each path keeps its place and what is under it. -/

set_option autoImplicit false

namespace ApiReview

/-! ## Findings that rename -/

/-- The path that the fix of a finding renames its path to. -/
def Finding.newPath? (finding : Finding) : Option String :=
  finding.fix?.bind fun fix => fix.changes.head?.bind (·.to?)

/-- What the fixes of some findings rename a path to; a path without findings stays. -/
def newPathOf (findings : List Finding) (path : String) : String :=
  ((findings.find? fun finding => finding.path == path).bind Finding.newPath?).getD path

/-- A finding whose fix renames its path, and does nothing else. -/
structure IsRenaming (rename : String → String) (finding : Finding) (fix : Fix) : Prop where
  carried : finding.fix? = some fix
  made : fix.changes = [renamingPath finding.path (rename finding.path)]

section Renamings

variable {rename : String → String} {found : List Finding} {path : String}

theorem newPathOf_of_mem
    (renamings : ∀ finding ∈ found, ∃ fix, IsRenaming rename finding fix)
    (about : path ∈ found.map (·.path)) : newPathOf found path = rename path := by
  cases first : found.find? fun finding => finding.path == path with
  | none =>
      obtain ⟨finding, among, rfl⟩ := List.mem_map.mp about
      have other := List.find?_eq_none.mp first finding among
      exact absurd (beq_self_eq_true _) other
  | some finding =>
      have same : finding.path = path := by simpa using List.find?_some first
      obtain ⟨fix, carried, made⟩ := renamings finding (List.mem_of_find?_eq_some first)
      rw [newPathOf, first, Option.bind_some, Finding.newPath?, carried, Option.bind_some, made, same]
      rfl

theorem newPathOf_of_not_mem (quiet : path ∉ found.map (·.path)) : newPathOf found path = path := by
  have none_about : (found.find? fun finding => finding.path == path) = none := by
    rw [List.find?_eq_none]
    exact fun finding among same => quiet (List.mem_map.mpr ⟨finding, among, eq_of_beq same⟩)
  rw [newPathOf, none_about]
  rfl

end Renamings

/-! ## Renamed keys -/

/-- A key, or its new name if it is one of the names that are renamed. -/
def Key.moved (rename : String → String) (names : List String) : Key → Key
  | .str name => .str (if name ∈ names then rename name else name)
  | key => key

def Members.moved (rename : String → String) (names : List String) (members : Members) : Members :=
  members.map fun (key, value) => (key.moved rename names, value)

/-- Keys that can be renamed one after the other: no new one is there before or comes twice. -/
structure AreRenamable (rename : String → String) (names : List String) (members : Members) :
    Prop where
  present : ∀ name ∈ names, Key.str name ∈ Members.keys members
  apart : ∀ name ∈ names, ∀ other ∈ names, rename name = rename other → name = other
  fresh : ∀ name ∈ names, Key.str (rename name) ∉ Members.keys members

section Moved

variable {rename : String → String} {names moved : List String} {members root : Members}
  {name : String}

theorem Key.eq_of_moved {key : Key} (same : key.moved rename moved = .str name) :
    ∃ original, key = .str original ∧
      ((original ∈ moved ∧ rename original = name) ∨ (original ∉ moved ∧ original = name)) := by
  cases key with
  | str original =>
      refine ⟨original, rfl, ?_⟩
      rw [Key.moved, Key.str.injEq] at same
      split at same
      · exact .inl ⟨‹_›, same⟩
      · exact .inr ⟨‹_›, same⟩
  | _ => cases same

theorem Members.mem_keys_moved {key : Key} :
    key ∈ keys (Members.moved rename moved members) ↔
      ∃ original ∈ keys members, original.moved rename moved = key := by
  simp only [keys, Members.moved, List.map_map, List.mem_map, Function.comp_def]
  constructor
  · rintro ⟨member, held, same⟩
    exact ⟨member.1, ⟨member, held, rfl⟩, same⟩
  · rintro ⟨-, ⟨member, held, rfl⟩, same⟩
    exact ⟨member, held, same⟩

namespace AreRenamable

theorem rename_ne (renamable : AreRenamable rename names members) {other : String}
    (first : name ∈ names) (second : other ∈ names) : rename name ≠ other :=
  fun same => renamable.fresh name first (same ▸ renamable.present other second)

variable (renamable : AreRenamable rename names members) (part : moved ⊆ names)
  (listed : name ∈ names)

include renamable part listed

theorem has_of_moved (done : name ∈ moved) :
    Members.has (Members.moved rename moved members) name = false ∧
      Members.has (Members.moved rename moved members) (rename name) = true := by
  rw [Members.has_eq_false_iff, Members.has_iff, Members.mem_keys_moved, Members.mem_keys_moved]
  refine ⟨?_, .str name, renamable.present name listed, by rw [Key.moved, if_pos done]⟩
  rintro ⟨key, held, same⟩
  obtain ⟨original, rfl, ⟨among, new⟩ | ⟨apart, rfl⟩⟩ := Key.eq_of_moved same
  · exact renamable.rename_ne (part among) listed new
  · exact apart done

theorem has_of_not_moved (waiting : name ∉ moved) :
    Members.has (Members.moved rename moved members) name = true ∧
      Members.has (Members.moved rename moved members) (rename name) = false := by
  rw [Members.has_eq_false_iff, Members.has_iff, Members.mem_keys_moved, Members.mem_keys_moved]
  refine ⟨⟨.str name, renamable.present name listed, by rw [Key.moved, if_neg waiting]⟩, ?_⟩
  rintro ⟨key, held, same⟩
  obtain ⟨original, rfl, ⟨among, new⟩ | ⟨-, rfl⟩⟩ := Key.eq_of_moved same
  · cases renamable.apart original (part among) name listed new
    exact waiting among
  · exact renamable.fresh name listed held

theorem renameKey_moved (waiting : name ∉ moved) :
    Members.renameKey (.str name) (.str (rename name)) (Members.moved rename moved members) =
      Members.moved rename (name :: moved) members := by
  rw [Members.renameKey, Members.moved, Members.moved, List.map_map]
  refine List.map_congr_left fun member _ => Prod.ext ?_ rfl
  obtain ⟨key, value⟩ := member
  simp only [Function.comp_def]
  cases key with
  | str original =>
      simp only [Key.moved, List.mem_cons]
      by_cases done : original ∈ moved
      · have other := renamable.rename_ne (part done) listed
        simp [done, other]
      · by_cases same : original = name
        · subst same
          simp [waiting]
        · simp [done, same]
  | _ => simp [Key.moved]

end AreRenamable

theorem Members.moved_cons_of_mem (done : name ∈ moved) :
    Members.moved rename (name :: moved) members = Members.moved rename moved members := by
  refine List.map_congr_left fun member _ => Prod.ext ?_ rfl
  obtain ⟨key, value⟩ := member
  cases key with
  | str original =>
      have same : original ∈ name :: moved ↔ original ∈ moved := by
        rw [List.mem_cons, or_iff_right_iff_imp]
        rintro rfl
        exact done
      simp only [Key.moved, same]
  | _ => rfl

theorem Members.moved_nil (rename : String → String) (members : Members) :
    Members.moved rename [] members = members := by
  refine (List.map_congr_left fun member _ => ?_).trans (List.map_id _)
  obtain ⟨key, value⟩ := member
  cases key <;> rfl

/-! ## Repaired documents -/

def withPaths (root paths : Members) : Node := .object (Members.put (.str "paths") (.object paths) root)

theorem pathItems_put (root paths : Members) :
    pathItems (Members.put (.str "paths") (.object paths) root) = paths := by
  rw [pathItems, Members.get?_put_self]
  rfl

theorem eq_withPaths {spec : Members} (some_path : pathItems spec ≠ []) :
    Node.object spec = withPaths spec (pathItems spec) := by
  cases read : Members.get? spec "paths" with
  | none => simp [pathItems, read] at some_path
  | some paths =>
      cases paths with
      | object items =>
          have same : pathItems spec = items := by
            rw [pathItems, read]
            rfl
          rw [withPaths, same, Members.put_of_lookup read]
      | _ => simp [pathItems, read, Node.members?] at some_path

theorem rename_withPaths {old new : String} (free : Members.has members new = false)
    (held : Members.has members old = true) :
    (renamingPath old new).apply (withPaths root members) =
      .ok (withPaths root (Members.renameKey (.str old) (.str new) members)) := by
  have located : (renamingPath old new).locate (withPaths root members) =
      .ok ([] ++ ["paths"].map .name) := locate_renamingPath old new _
  have found : (withPaths root members).at? ([] ++ ["paths"].map .name) = some (.object members) :=
    Node.at?_singleton.trans Members.get?_put_self
  have planned : (renamingPath old new).plan (withPaths root members) =
      .ok [.renameKey ["paths"] old new] :=
    (Change.plan_rename_iff rfl rfl rfl located Node.at?_nil).mpr
      ⟨members, found, .inr ⟨held, free, rfl⟩⟩
  refine Change.apply_of_plan planned ?_
  simp [Edit.applyAll, withPaths, Edit.apply, Node.partAt, Node.shape, Shape.child,
    Shape.renameKey, Shape.toNode, Node.replaceAt, Node.editAt, Shape.replace, Shape.withChild, bind,
    Except.bind, pure, Except.pure, Members.has]

theorem renamingPath_idle {old new : String} (gone : Members.has members old = false)
    (there : Members.has members new = true) :
    (renamingPath old new).apply (withPaths root members) = .ok (withPaths root members) :=
  Change.rename_done rfl rfl rfl (locate_renamingPath old new _)
    (Node.at?_singleton.trans Members.get?_put_self) gone there

theorem AreRenamable.step (renamable : AreRenamable rename names members) (part : moved ⊆ names)
    (listed : name ∈ names) (root : Members) :
    (renamingPath name (rename name)).apply (withPaths root (Members.moved rename moved members)) =
      .ok (withPaths root (Members.moved rename (name :: moved) members)) := by
  by_cases done : name ∈ moved
  · obtain ⟨gone, there⟩ := renamable.has_of_moved part listed done
    rw [Members.moved_cons_of_mem done]
    exact renamingPath_idle gone there
  · obtain ⟨held, free⟩ := renamable.has_of_not_moved part listed done
    rw [rename_withPaths free held, renamable.renameKey_moved part listed done]

end Moved

section Repair

variable {rename : String → String} {names moved : List String} {members : Members}

/-- A finding that renames one of the paths leaves it renamed, and is counted as applied. -/
theorem AreRenamable.applyFix (renamable : AreRenamable rename names members)
    (part : moved ⊆ names) {finding : Finding} {fix : Fix} (listed : finding.path ∈ names)
    (renames : IsRenaming rename finding fix) (root : Members) (log : List FixOutcome) :
    ∃ outcome, PatchSession.applyFix ⟨withPaths root (Members.moved rename moved members), log⟩ fix
        finding.ruleId =
          .ok (⟨withPaths root (Members.moved rename (finding.path :: moved) members),
            log ++ [outcome]⟩, outcome) ∧ outcome.applied = true := by
  have stepped := renamable.step part listed root
  refine ⟨⟨finding.ruleId, fix.kind, true, [.made (renamingPath finding.path (rename finding.path))]⟩,
    ?_, rfl⟩
  rw [PatchSession.applyFix, renames.made, tryChanges, stepped]
  rfl

/-- The findings are applied in order, and then all paths that they are about are renamed. -/
theorem AreRenamable.applyFindings (renamable : AreRenamable rename names members)
    {found : List Finding} (about : ∀ finding ∈ found, finding.path ∈ names)
    (renamings : ∀ finding ∈ found, ∃ fix, IsRenaming rename finding fix)
    (part : moved ⊆ names) (root : Members) (log : List FixOutcome) :
    ∃ after outcomes,
      PatchSession.applyFindings ⟨withPaths root (Members.moved rename moved members), log⟩ found =
        .ok (after, outcomes) ∧
      outcomes.length = found.length ∧ (∀ outcome ∈ outcomes, outcome.applied = true) ∧
      after.document = withPaths root
        (Members.moved rename ((found.map (·.path)).reverse ++ moved) members) := by
  induction found generalizing moved log with
  | nil => exact ⟨_, [], rfl, rfl, by simp, rfl⟩
  | cons finding rest ih =>
      have listed := about finding List.mem_cons_self
      obtain ⟨fix, renames⟩ := renamings finding List.mem_cons_self
      obtain ⟨outcome, stepped, applied⟩ :=
        renamable.applyFix part listed renames root log
      obtain ⟨after, outcomes, ran, length, all, document⟩ :=
        ih (fun other among => about other (List.mem_cons_of_mem _ among))
          (fun other among => renamings other (List.mem_cons_of_mem _ among))
          (List.cons_subset.mpr ⟨listed, part⟩) (log ++ [outcome])
      refine ⟨after, outcome :: outcomes, ?_, by simp [length], ?_, ?_⟩
      · rw [PatchSession.applyFindings, PatchSession.fixesOf, List.filterMap_cons, renames.carried]
        exact PatchSession.applyFixes_cons stepped ran
      · exact List.forall_mem_cons.mpr ⟨applied, all⟩
      · rw [document]
        simp

end Repair

end ApiReview
