import ApiReview.Proofs.Fix.Replay

/-! Fixes of an operation change nothing but the operation. Their addresses lead into
it, whatever its path is, and what is created on the way lies below it; the members
of the path item, the path items and the members of the document keep their places. -/

set_option autoImplicit false

namespace ApiReview

open ApiReview.Address ApiReview.Text

variable {document after value : Node} {change : Change} {fix : Fix} {path method key : String}
  {item : Members} {names : List String} {mayAdd : Prop}

/-! ## One member -/

theorem Members.exists_split {Value : Type} {members : List (Key × Value)} {key : Key}
    {value : Value} (read : members.lookup key = some value) :
    ∃ front rest, members = front ++ (key, value) :: rest ∧ key ∉ keys front := by
  obtain ⟨front, rest, split, others⟩ := List.lookup_eq_some_iff.mp read
  refine ⟨front, rest, split, fun among => ?_⟩
  obtain ⟨held, among⟩ := exists_mem_of_mem_keys among
  simpa using others _ among

theorem Members.lookup_between {Value : Type} {front rest : List (Key × Value)} {key : Key}
    {value : Value} (absent : key ∉ keys front) :
    (front ++ (key, value) :: rest).lookup key = some value := by
  refine List.lookup_eq_some_iff.mpr ⟨front, rest, rfl, fun member among => ?_⟩
  rw [bne_iff_ne]
  rintro rfl
  exact absent (mem_keys_of_mem among)

theorem Members.not_mem_front {Value : Type} {front rest : List (Key × Value)} {key : Key}
    {value : Value} (distinct : (keys (front ++ (key, value) :: rest)).Nodup) : key ∉ keys front := by
  rw [keys, List.map_append, List.nodup_append] at distinct
  exact fun among => distinct.2.2 _ among _ List.mem_cons_self rfl

/-- Members that are the same but for the value of one, which may be a new one behind the others. -/
inductive OneApart (key : String) (mayAdd : Prop) : Members → Members → Prop
  | changed (front rest : Members) (old new : Node) :
      OneApart key mayAdd (front ++ (.str key, old) :: rest) (front ++ (.str key, new) :: rest)
  | added (members : Members) (new : Node) : mayAdd → Key.str key ∉ Members.keys members →
      OneApart key mayAdd members (members ++ [(.str key, new)])

theorem oneApart_put {members : Members} (value : Node)
    (missing : Members.has members key = false → mayAdd) :
    OneApart key mayAdd members (Members.put (.str key) value members) := by
  cases read : Members.get? members key with
  | none =>
      have absent := Members.get?_eq_none_iff.mp read
      rw [Members.put_of_not_mem absent]
      refine .added members value (missing ?_) absent
      rw [Members.has, read]
      rfl
  | some old =>
      obtain ⟨front, rest, rfl, absent⟩ := Members.exists_split read
      rw [Members.put_append_cons absent]
      exact .changed front rest old value

/-! ## The document around a path item -/

/-- What a document holds besides a path item, in front of it and behind it. -/
structure AroundItem where
  before : Members
  pathsBefore : Members
  pathsAfter : Members
  after : Members

/-- The document with an item for the path. -/
def AroundItem.holding (around : AroundItem) (path : String) (item : Members) : Node :=
  .object (around.before ++ (.str "paths", .object (around.pathsBefore ++
    (.str path, .object item) :: around.pathsAfter)) :: around.after)

/-- Documents that are the same but for the value of an operation, which may be a new one behind
the others of its path. -/
def OperationApart (path key : String) (mayAdd : Prop) (document after : Node) : Prop :=
  after = document ∨ ∃ (around : AroundItem) (item changed : Members),
    document = around.holding path item ∧ after = around.holding path changed ∧
      OneApart key mayAdd item changed

section AroundItem

variable {around : AroundItem} (free : Key.str "paths" ∉ Members.keys around.before)
  (pathFree : Key.str path ∉ Members.keys around.pathsBefore)

include free

theorem AroundItem.at?_paths :
    (around.holding path item).at? [.name "paths"] =
      some (.object (around.pathsBefore ++ (.str path, .object item) :: around.pathsAfter)) := by
  rw [Node.at?_singleton]
  exact Members.lookup_between free

include pathFree

theorem AroundItem.at?_holding :
    (around.holding path item).at? [.name "paths", .name path] = some (.object item) := by
  have split : [Part.name "paths", .name path] = [.name "paths"] ++ [.name path] := rfl
  rw [split, Node.at?_append_of_some (AroundItem.at?_paths free), Node.at?_singleton]
  exact Members.lookup_between pathFree

theorem AroundItem.graft_holding (changed : Members) :
    Node.graft (.object changed) [.name "paths", .name path] (around.holding path item) =
      around.holding path changed := by
  have paths : (around.holding path item).part? (.name "paths") =
      some (.object (around.pathsBefore ++ (.str path, .object item) :: around.pathsAfter)) :=
    Members.lookup_between free
  rw [Node.graft_cons, paths, Option.getD_some, Node.graft_cons, Node.graft_nil, Node.withPart,
    AroundItem.holding, Node.withPart, Members.put_append_cons pathFree,
    Members.put_append_cons free]
  rfl

end AroundItem

theorem exists_around (reached : document.at? [.name "paths", .name path] = some (.object item)) :
    ∃ around : AroundItem, document = around.holding path item ∧
      Key.str "paths" ∉ Members.keys around.before ∧
      Key.str path ∉ Members.keys around.pathsBefore := by
  obtain ⟨paths, above, read⟩ := Node.exists_object_of_member
    (show document.at? ([.name "paths"] ++ [.name path]) = some (.object item) from reached)
  obtain ⟨members, root, readPaths⟩ := Node.exists_object_of_member
    (show document.at? ([] ++ [.name "paths"]) = some (.object paths) from above)
  cases root
  obtain ⟨before, after, rfl, free⟩ := Members.exists_split readPaths
  obtain ⟨pathsBefore, pathsAfter, rfl, pathFree⟩ := Members.exists_split read
  exact ⟨⟨before, pathsBefore, pathsAfter, after⟩, rfl, free, pathFree⟩

/-- What is put below an operation changes its value alone. -/
theorem operationApart_graft
    (reached : document.at? [.name "paths", .name path] = some (.object item))
    (missing : Members.has item key = false → mayAdd) (value : Node) (below : List Part) :
    OperationApart path key mayAdd document
      (Node.graft value (.name "paths" :: .name path :: .name key :: below) document) := by
  obtain ⟨around, rfl, free, pathFree⟩ := exists_around reached
  have split : Part.name "paths" :: .name path :: .name key :: below =
      [.name "paths", .name path] ++ .name key :: below := rfl
  rw [split, Node.graft_append_of_some reached, Node.graft_cons]
  exact .inr ⟨around, item, _, rfl, AroundItem.graft_holding free pathFree _, oneApart_put _ missing⟩

theorem exists_item_of_operation {operation : Node}
    (found : document.at? [.name "paths", .name path, .name key] = some operation) :
    ∃ item, document.at? [.name "paths", .name path] = some (.object item) ∧
      Members.has item key = true := by
  obtain ⟨item, above, read⟩ := Node.exists_object_of_member
    (show document.at? ([.name "paths", .name path] ++ [.name key]) = some operation from found)
  refine ⟨item, above, ?_⟩
  rw [Members.has, read]
  rfl

theorem operationApart_below {operation : Node} (mayAdd : Prop)
    (found : document.at? [.name "paths", .name path, .name key] = some operation) (value : Node)
    (below : List Part) :
    OperationApart path key mayAdd document
      (Node.graft value (.name "paths" :: .name path :: .name key :: below) document) := by
  obtain ⟨item, above, present⟩ := exists_item_of_operation found
  refine operationApart_graft above (fun absent => ?_) value below
  cases present.symm.trans absent

/-! ## Kinds of change -/

namespace Change

variable (mayAdd)

theorem set_apart {more : List String} (applied : change.apply document = .ok after)
    (located : change.locate document = .ok ([] ++ ("paths" :: path :: key :: more).map .name))
    (kind : change.kind = .set) (adds : more = [] → mayAdd) :
    OperationApart path key mayAdd document after := by
  obtain ⟨rfl, opened, parents, planned⟩ :=
    set_ok kind (List.cons_ne_nil _ _) located Node.at?_nil applied
  obtain ⟨⟨found, itemFound⟩, operationFound⟩ := parentEdits_protected planned
  cases more with
  | nil =>
      have opened : document.isOpen ([.name "paths", .name path] ++ [.name key]) = true := opened
      rw [Node.isOpen_append itemFound] at opened
      obtain ⟨item, rfl, _⟩ := Node.graft_name_of_isOpen change.value opened
      exact operationApart_graft itemFound (fun _ => adds rfl) change.value []
  | cons next more =>
      obtain ⟨operation, operationFound⟩ := operationFound (List.cons_ne_nil next more)
      exact operationApart_below mayAdd operationFound change.value _

section OnePart

variable {last : String} (applied : change.apply document = .ok after)
  (located : change.locate document = .ok ([] ++ ["paths", path, key, last].map .name))

theorem exists_operation_of_part {part : Node}
    (found : document.at? ([] ++ ["paths", path, key, last].map .name) = some part) :
    ∃ operation, document.at? [.name "paths", .name path, .name key] = some operation := by
  obtain ⟨operation, above, _⟩ := Node.at?_of_append
    (show document.at? ([.name "paths", .name path, .name key] ++ [.name last]) = some part
      from found)
  exact ⟨operation, above⟩

include applied located

theorem remove_apart (kind : change.kind = .remove) :
    OperationApart path key mayAdd document after := by
  obtain ⟨result, removed, gone⟩ :=
    remove_names kind (show change.locate document =
      .ok ((["paths", path, key] ++ [last]).map .name) from located)
  cases applied.symm.trans removed
  rcases gone with ⟨_, same⟩ | ⟨members, found, rfl⟩
  · exact .inl same
  · exact operationApart_below mayAdd found _ []

theorem rename_apart {old new : String} (kind : change.kind = .renameKey)
    (source : change.from? = some old) (target : change.to? = some new) :
    OperationApart path key mayAdd document after := by
  obtain ⟨members, found, ⟨_, same⟩ | ⟨_, _, rfl⟩⟩ :=
    rename_ok kind source target located Node.at?_nil applied
  · exact .inl same
  · obtain ⟨operation, above⟩ := exists_operation_of_part found
    exact operationApart_below mayAdd above _ [.name last]

theorem merge_apart {items : List Node} (kind : change.kind = .merge)
    (listed : change.value = .list items) (word : listPosition last = .error .conflict)
    (inside : last ≠ "-") : OperationApart path key mayAdd document after := by
  have notList := notList_of_merge kind word inside (show change.locate document =
    .ok ((["paths", path, key] ++ [last]).map .name) from located) applied
  obtain ⟨present, found, rfl, _⟩ :=
    merge_ok kind listed (List.cons_ne_nil _ _) located Node.at?_nil notList applied
  rcases found with found | ⟨_, parents, planned⟩
  · obtain ⟨operation, above⟩ := exists_operation_of_part found
    exact operationApart_below mayAdd above _ [.name last]
  · obtain ⟨operation, above⟩ := (parentEdits_protected planned).2 (List.cons_ne_nil _ _)
    exact operationApart_below mayAdd above _ [.name last]

end OnePart

end Change

/-! ## Fixes -/

/-- A fix of an operation, as one of the builders of fixes makes it. -/
inductive Fix.IsOfOperation (path method : String) : Fix → Prop
  | addParameters {parameters : List Node} {fix : Fix} :
      Fix.addParameters path method parameters = .ok fix → IsOfOperation path method fix
  | removeRequestBody : IsOfOperation path method (Fix.removeRequestBody path method)
  | changeStatusCode (current suggested : String) :
      IsOfOperation path method (Fix.changeStatusCode path method current suggested)
  | addResponse (code : String) (response : Node) :
      IsOfOperation path method (Fix.addResponse path method code response)
  | addOperation (operation : Node) (basedOn? : Option String) :
      IsOfOperation path method (Fix.addOperation path method operation basedOn?)

theorem Fix.IsOfOperation.apart (isOf : Fix.IsOfOperation path method fix)
    (isMethod : isMethodKey method = true)
    (applied : Change.applyAll fix.changes document = .ok after) :
    OperationApart path (lower method) (fix.kind = .addOperation) document after := by
  have leads : ∀ {text : String} {more : List WrittenStep} (names : List String),
      IsWritten text ([.bare "paths", .quoted path, .bare (lower method)] ++ more) →
      more.map WrittenStep.selector = names.map memberSelector →
      (∀ step ∈ more, step.isPlain = true ∧ step.isReserved = false) →
      Address.locate document text = .ok (("paths" :: path :: lower method :: names).map .name) :=
    fun names written selects words => locate_operationPart isMethod path document written selects
      words
  cases isOf with
  | addParameters built =>
      rw [changes_addParameters built] at applied
      have located := leads ["parameters"] (isWritten_ofParameters (isMethodKey_isEmpty isMethod)
        path) rfl (by decide)
      exact Change.merge_apart _ (Change.applyAll_singleton applied) (Change.locate_of located) rfl
        rfl rfl (by decide)
  | removeRequestBody =>
      have located := leads ["requestBody"] (isWritten_ofRequestBody path method) rfl (by decide)
      exact Change.remove_apart _ (Change.applyAll_singleton applied) (Change.locate_of located) rfl
  | changeStatusCode current suggested =>
      have located := leads ["responses"] (isWritten_ofResponses path method) rfl (by decide)
      exact Change.rename_apart _ (Change.applyAll_singleton applied) (Change.locate_of located) rfl
        rfl rfl
  | addResponse code response =>
      have located := leads ["responses", code] (isWritten_ofResponse path method code) rfl
        (words_response code)
      exact Change.set_apart _ (Change.applyAll_singleton applied) (Change.locate_of located) rfl
        nofun
  | addOperation operation basedOn? =>
      have selects : ([] : List WrittenStep).map WrittenStep.selector = [].map memberSelector := rfl
      have located := leads [] (isWritten_ofOperation path method) selects (by simp)
      exact Change.set_apart _ (Change.applyAll_singleton applied) (Change.locate_of located) rfl
        fun _ => rfl

/-- A fix of an operation that was applied left the document as it was, or the same but for the
value of this operation: the other members of its path item, the other path items and the other
members of the document are the same, in the same order. Only a fix that adds an operation may put
it behind the others of the path. -/
theorem operation_fix_confined {session result : PatchSession Node} {ruleId : String}
    {outcome : FixOutcome} (isMethod : isMethodKey method = true)
    (isOf : Fix.IsOfOperation path method fix)
    (ran : session.applyFix fix ruleId = .ok (result, outcome))
    (applied : outcome.applied = true) :
    OperationApart path (lower method) (fix.kind = .addOperation) session.document
      result.document :=
  isOf.apart isMethod ((PatchSession.applyFix_ok ran).2.applyAll_of_applied applied)

/-- A document with a path whose name has the marks of pointers and of addresses. -/
def markedPath : Node :=
  .object [(.str "paths", .object [(.str "/a~1['b']", .object [(.str "get", .object [])]),
    (.str "/a", .object [])]), (.str "/a/b", .null)]

theorem operation_fix_confined_markedPath :
    ∃ result outcome,
      PatchSession.applyFix ⟨markedPath, []⟩ (Fix.addResponse "/a~1['b']" "get" "default"
        (.object [])) "acme/default" = .ok (result, outcome) ∧
      outcome.applied = true ∧
      OperationApart "/a~1['b']" (lower "get") False markedPath result.document := by
  have run : (PatchSession.applyFix ⟨markedPath, []⟩ (Fix.addResponse "/a~1['b']" "get" "default"
      (.object [])) "acme/default").toOption.any (fun (_, outcome) => outcome.applied) = true := by
    decide +kernel
  obtain ⟨⟨result, outcome⟩, ran, applied⟩ := ok_of_any run
  have confined := operation_fix_confined (by decide) (.addResponse "default" (.object [])) ran
    applied
  have noAddition : ((Fix.addResponse "/a~1['b']" "get" "default" (.object [])).kind =
      .addOperation) = False := eq_false (by decide)
  rw [noAddition] at confined
  exact ⟨result, outcome, ran, applied, confined⟩

end ApiReview
