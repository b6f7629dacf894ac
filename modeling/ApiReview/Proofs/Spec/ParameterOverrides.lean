import ApiReview.Proofs.Spec.ParameterLists
import ApiReview.Proofs.Spec.QueryDeclarations
import ApiReview.Proofs.Spec.ReferenceLimits

/-! Which declaration of a parameter counts for an operation. The items of the two
lists are told apart by the slot that they declare, that is by name and location,
which are known only once references are followed. Every slot that is declared holds
one parameter, that of its last declaration, in the order of the first declarations. -/

set_option autoImplicit false

namespace ApiReview

open ApiReview.Text

/-- What tells the parameters of an operation apart: name and location. -/
def Parameter.slot (parameter : Parameter) : String × Node := (parameter.name, parameter.location)

variable {spec item : Node} {path : String} {method? : Option String} {slot other : String × Node}
  {definition another : Members} {parameter : Parameter} {parameters start result : List Parameter}
  {items more done : List Node} {slots : List (String × Node)} {fault : Fault}

/-- An item comes to the definition of a parameter, at the end of a chain of references if it is
one. A definition without a location is one for the query. -/
structure Declares (spec item : Node) (slot : String × Node) (definition : Members) : Prop where
  ends : EndsAt spec referenceLimit item (.object definition)
  named : (Members.get? definition "name").map Node.display = some slot.1
  located : (Members.get? definition "in").getD (.str "query") = slot.2

/-- The parameter that a declaration stands for. Its address is that of a reference, if the item is
one that has an address. -/
def declaredParameter (path : String) (method? : Option String) (item : Node)
    (slot : String × Node) (definition : Members) : Parameter :=
  let reference? := (item.get? "$ref").bind Node.text?
  ⟨slot.1, slot.2, definition,
    (reference?.bind fun reference => (Address.ofReference reference).toOption).getD
      (Address.ofParameter path method? slot.1 (locationText? slot.2)), reference?⟩

/-- The last item of a list that declares a slot. -/
structure LastDeclares (spec : Node) (items : List Node) (slot : String × Node) (item : Node)
    (definition : Members) : Prop where
  declares : Declares spec item slot definition
  isLast : ∃ front back, items = front ++ item :: back ∧
    ∀ later ∈ back, ∀ another, ¬ Declares spec later slot another

/-- An item of a list declares one slot, while neither it nor an item before it declares the
other. -/
def DeclaredBefore (spec : Node) (items : List Node) (slot other : String × Node) : Prop :=
  ∃ front item back definition, items = front ++ item :: back ∧
    Declares spec item slot definition ∧
    ∀ earlier ∈ front ++ [item], ∀ another, ¬ Declares spec earlier other another

namespace Node

mutual

/-- Whether all locations in a document are texts. -/
def hasTextLocations : Node → Bool
  | .list items => haveTextLocations items
  | .object members => holdTextLocations members
  | _ => true

/-- Whether all locations in the items of a list are texts. -/
def haveTextLocations : List Node → Bool
  | [] => true
  | item :: rest => item.hasTextLocations && haveTextLocations rest

/-- Whether all locations in the members of an object are texts, its own among them. -/
def holdTextLocations : List (Key × Node) → Bool
  | [] => true
  | (key, value) :: rest =>
    (key != .str "in" || value.text?.isSome) && value.hasTextLocations && holdTextLocations rest

end

/-- A document whose references are in ASCII and whose locations are texts. -/
structure IsPlain (document : Node) : Prop where
  references : document.hasAsciiReferences
  locations : document.hasTextLocations = true

theorem hasTextLocations_of_item (texts : haveTextLocations items = true) (among : item ∈ items) :
    item.hasTextLocations = true := by
  induction items with
  | nil => cases among
  | cons first rest ih =>
      rw [haveTextLocations, Bool.and_eq_true] at texts
      rcases List.mem_cons.mp among with rfl | behind
      · exact texts.1
      · exact ih texts.2 behind

theorem hasTextLocations_of_member {members : Members} {key : Key} {value : Node}
    (texts : holdTextLocations members = true) (among : (key, value) ∈ members) :
    (key != .str "in" || value.text?.isSome) = true ∧ value.hasTextLocations = true := by
  induction members with
  | nil => cases among
  | cons first rest ih =>
      obtain ⟨head, held⟩ := first
      rw [holdTextLocations, Bool.and_eq_true, Bool.and_eq_true] at texts
      rcases List.mem_cons.mp among with here | behind
      · cases here
        exact texts.1
      · exact ih texts.2 behind

theorem Contains.hasTextLocations {document value : Node} (inside : document.Contains value)
    (texts : document.hasTextLocations = true) : value.hasTextLocations = true := by
  induction inside with
  | whole => exact texts
  | member _ among ih =>
      rw [Node.hasTextLocations] at ih
      exact (hasTextLocations_of_member ih among).2
  | item _ among ih =>
      rw [Node.hasTextLocations] at ih
      exact hasTextLocations_of_item ih among

theorem Contains.exists_text {document location : Node} {members : Members}
    (inside : document.Contains (.object members)) (texts : document.hasTextLocations = true)
    (held : Members.get? members "in" = some location) : ∃ text, location = .str text := by
  have own := inside.hasTextLocations texts
  rw [Node.hasTextLocations] at own
  have suits := (hasTextLocations_of_member own (Members.mem_of_lookup held)).1
  cases location with
  | str text => exact ⟨text, rfl⟩
  | _ => cases suits

end Node

/-! ## Items -/

theorem Declares.unique (declares : Declares spec item slot definition)
    (again : Declares spec item other another) : other = slot ∧ another = definition := by
  have first := resolve?_eq_some_iff.mpr declares.ends
  have second := resolve?_eq_some_iff.mpr again.ends
  rw [first] at second
  cases second
  have name := declares.named.symm.trans again.named
  have location := declares.located.symm.trans again.located
  exact ⟨Prod.ext (Option.some.inj name).symm location.symm, rfl⟩

/-- An item that comes to an object is one. -/
theorem EndsAt.exists_members {limit : Nat} (ends : EndsAt spec limit item (.object definition)) :
    ∃ members, item = .object members := by
  obtain ⟨-, count, -, reaches⟩ := ends
  cases reaches with
  | here => exact ⟨definition, rfl⟩
  | step held _ _ =>
      cases item with
      | object members => exact ⟨members, rfl⟩
      | _ => cases held

theorem OverrunsWithin.exists_members {limit : Nat} (overruns : OverrunsWithin spec limit item) :
    ∃ members, item = .object members := by
  obtain ⟨count, -, last, reference, reaches, held, -⟩ := overruns
  cases item with
  | object members => exact ⟨members, rfl⟩
  | _ =>
      cases reaches with
      | here => cases held
      | step first _ _ => cases first

theorem Declares.parameter?_eq (declares : Declares spec item slot definition) (path : String)
    (method? : Option String) :
    parameter? spec path method? item =
      .ok (some (declaredParameter path method? item slot definition)) := by
  have resolved := resolve?_eq_some_iff.mpr declares.ends
  obtain ⟨members, rfl⟩ := declares.ends.exists_members
  obtain ⟨nameNode, named, name⟩ := Option.map_eq_some_iff.mp declares.named
  simp only [parameter?, resolved, bind, Except.bind, Option.bind_some, Node.members?, named, name,
    declares.located]
  rfl

theorem declares_of_parameter? (read : parameter? spec path method? item = .ok (some parameter)) :
    Declares spec item parameter.slot parameter.definition ∧
      parameter = declaredParameter path method? item parameter.slot parameter.definition := by
  obtain ⟨members, nameNode, -, resolved, named, name, location, -⟩ := parameter?_ok read
  have declares : Declares spec item parameter.slot parameter.definition := by
    refine ⟨resolve?_eq_some_iff.mp resolved, ?_, location.symm⟩
    rw [named]
    exact congrArg some name.symm
  have again := declares.parameter?_eq path method?
  rw [read] at again
  exact ⟨declares, Option.some.inj (Except.ok.inj again)⟩

theorem parameter?_eq_error_iff (asciiSpec : spec.hasAsciiReferences)
    (asciiItem : item.hasAsciiReferences) :
    parameter? spec path method? item = .error fault ↔
      fault = .badValue ∧ OverrunsWithin spec referenceLimit item := by
  constructor
  · intro failed
    cases item with
    | object members =>
        rw [parameter?, bind_eq_error_iff] at failed
        rcases failed with stopped | ⟨target?, -, failed⟩
        · exact (resolve?_eq_error_iff asciiSpec asciiItem).mp stopped
        · dsimp only at failed
          split at failed
          · cases failed
          · split at failed <;> cases failed
    | _ => cases failed
  · intro stopped
    obtain ⟨members, rfl⟩ := stopped.2.exists_members
    rw [parameter?, bind_eq_error_iff]
    exact .inl ((resolve?_eq_error_iff asciiSpec asciiItem).mpr stopped)

/-! ## Locations -/

theorem Declares.exists_text (declares : Declares spec item slot definition)
    (plainSpec : spec.IsPlain) (plainItem : item.IsPlain) :
    ∃ text, slot.2 = .str text := by
  obtain ⟨-, count, -, reaches⟩ := declares.ends
  have located := declares.located
  cases held : Members.get? definition "in" with
  | none =>
      rw [held] at located
      exact ⟨"query", located.symm⟩
  | some location =>
      rw [held] at located
      have text : ∃ text, location = .str text := by
        rcases reaches.contains with inside | inside
        · exact inside.exists_text plainItem.locations held
        · exact inside.exists_text plainSpec.locations held
      obtain ⟨text, rfl⟩ := text
      exact ⟨text, located.symm⟩

theorem Parameter.sameSlot_iff {left right : Parameter} {text : String}
    (location : right.location = .str text) : left.sameSlot right = true ↔ left.slot = right.slot := by
  constructor
  · intro same
    rw [Parameter.sameSlot, Bool.and_eq_true, beq_iff_eq, location] at same
    exact Prod.ext same.1 ((Node.same_str same.2).trans location.symm)
  · intro same
    have placed : left.isAt right.name text := by
      exact ⟨congrArg Prod.fst same, (congrArg Prod.snd same).trans location⟩
    exact Parameter.sameSlot_of_isAt placed ⟨rfl, location⟩

/-- A parameter takes the place of the one in its slot, or comes to the end if there is none. -/
theorem slots_putParameter {text : String} (location : parameter.location = .str text) :
    (parameter.slot ∈ parameters.map Parameter.slot ∧
      (putParameter parameters parameter).map Parameter.slot = parameters.map Parameter.slot) ∨
    (parameter.slot ∉ parameters.map Parameter.slot ∧
      (putParameter parameters parameter).map Parameter.slot =
        parameters.map Parameter.slot ++ [parameter.slot]) := by
  have present : parameters.any (·.sameSlot parameter) = true ↔
      parameter.slot ∈ parameters.map Parameter.slot := by
    simp [List.any_eq_true, Parameter.sameSlot_iff location, List.mem_map]
  rw [putParameter]
  split
  · rename_i there
    refine .inl ⟨present.mp there, ?_⟩
    rw [List.map_map]
    refine List.map_congr_left fun old among => ?_
    rw [Function.comp_apply]
    split
    · rename_i same
      exact ((Parameter.sameSlot_iff location).mp same).symm
    · rfl
  · rename_i absent
    refine .inr ⟨mt present.mpr absent, ?_⟩
    rw [List.map_append, List.map_singleton]

/-! ## Order -/

/-- The slots that items declare, each of them once and in the order of the first declarations. -/
structure Gathers (spec : Node) (items : List Node) (slots : List (String × Node)) : Prop where
  mem_iff : ∀ slot, slot ∈ slots ↔ ∃ item ∈ items, ∃ definition, Declares spec item slot definition
  ordered : slots.Pairwise (DeclaredBefore spec items)

theorem DeclaredBefore.append (before : DeclaredBefore spec items slot other) (more : List Node) :
    DeclaredBefore spec (items ++ more) slot other := by
  obtain ⟨front, item, back, definition, rfl, declares, absent⟩ := before
  refine ⟨front, item, back ++ more, definition, ?_, declares, absent⟩
  rw [List.append_assoc, List.cons_append]

theorem DeclaredBefore.ne (before : DeclaredBefore spec items slot other) : slot ≠ other := by
  intro same
  obtain ⟨front, item, back, definition, -, declares, absent⟩ := before
  subst same
  exact absent item (List.mem_append_right _ List.mem_cons_self) definition declares

theorem gathers_nil (spec : Node) : Gathers spec [] [] where
  mem_iff slot := by simp
  ordered := .nil

/-- An item that declares no new slot adds nothing. -/
theorem Gathers.keep (gathers : Gathers spec done slots)
    (known : ∀ slot definition, Declares spec item slot definition → slot ∈ slots) :
    Gathers spec (done ++ [item]) slots where
  mem_iff slot := by
    constructor
    · intro listed
      obtain ⟨earlier, among, declared⟩ := (gathers.mem_iff slot).mp listed
      exact ⟨earlier, List.mem_append_left _ among, declared⟩
    · intro declared
      obtain ⟨earlier, among, definition, declares⟩ := declared
      rcases List.mem_append.mp among with inside | last
      · exact (gathers.mem_iff slot).mpr ⟨earlier, inside, definition, declares⟩
      · cases List.mem_singleton.mp last
        exact known slot definition declares
  ordered := gathers.ordered.imp fun before => before.append [item]

/-- An item that declares a new slot adds it at the end, since all others were declared before. -/
theorem Gathers.add (gathers : Gathers spec done slots)
    (declares : Declares spec item slot definition) (absent : slot ∉ slots) :
    Gathers spec (done ++ [item]) (slots ++ [slot]) where
  mem_iff other := by
    rw [List.mem_append, List.mem_singleton]
    constructor
    · intro listed
      rcases listed with listed | rfl
      · obtain ⟨earlier, among, declared⟩ := (gathers.mem_iff other).mp listed
        exact ⟨earlier, List.mem_append_left _ among, declared⟩
      · exact ⟨item, List.mem_append_right _ List.mem_cons_self, definition, declares⟩
    · intro declared
      obtain ⟨later, among, another, again⟩ := declared
      rcases List.mem_append.mp among with inside | last
      · exact .inl ((gathers.mem_iff other).mpr ⟨later, inside, another, again⟩)
      · cases List.mem_singleton.mp last
        exact .inr (declares.unique again).1
  ordered := by
    have kept := gathers.ordered.imp fun before => before.append [item]
    refine List.pairwise_append.mpr ⟨kept, List.pairwise_singleton _ _, ?_⟩
    intro first among last here
    cases List.mem_singleton.mp here
    obtain ⟨earlier, inside, another, declared⟩ := (gathers.mem_iff first).mp among
    obtain ⟨front, back, rfl⟩ := List.append_of_mem inside
    refine ⟨front, earlier, back ++ [item], another, ?_, declared, ?_⟩
    · rw [List.append_assoc, List.cons_append]
    · intro other before found again
      refine absent ((gathers.mem_iff slot).mpr ⟨other, ?_, found, again⟩)
      rw [List.append_cons]
      exact List.mem_append_left back before

section Plain

variable (plainSpec : spec.IsPlain)

include plainSpec

theorem Gathers.addParameters (gathers : Gathers spec done (start.map Parameter.slot))
    (added : addParameters spec path method? start items = .ok result)
    (plain : ∀ item ∈ items, item.IsPlain) :
    Gathers spec (done ++ items) (result.map Parameter.slot) := by
  induction items generalizing done start with
  | nil =>
      cases added
      rwa [List.append_nil]
  | cons item rest ih =>
      have behind := fun item among => plain item (List.mem_cons_of_mem _ among)
      obtain ⟨next, continued, step⟩ := addParameters_cons_ok added
      rw [List.append_cons]
      refine ih ?_ continued behind
      rcases step with ⟨nothing, rfl⟩ | ⟨parameter, read, rfl⟩
      · refine gathers.keep fun slot definition declares => ?_
        rw [declares.parameter?_eq path method?] at nothing
        cases nothing
      · obtain ⟨declares, -⟩ := declares_of_parameter? read
        obtain ⟨text, location⟩ := declares.exists_text plainSpec (plain item List.mem_cons_self)
        rcases slots_putParameter location with ⟨present, same⟩ | ⟨absent, longer⟩
        · rw [same]
          exact gathers.keep fun slot definition again => (declares.unique again).1 ▸ present
        · rw [longer]
          exact gathers.add declares absent

theorem addParameters_eq_error_iff (plain : ∀ item ∈ items, item.IsPlain) :
    addParameters spec path method? start items = .error fault ↔
      fault = .badValue ∧ ∃ item ∈ items, OverrunsWithin spec referenceLimit item := by
  induction items generalizing start with
  | nil => exact ⟨nofun, fun failed => absurd failed.2 (by simp)⟩
  | cons item rest ih =>
      have behind := fun item among => plain item (List.mem_cons_of_mem _ among)
      have here := plain item List.mem_cons_self
      rw [List.exists_mem_cons_iff]
      cases read : parameter? spec path method? item with
      | error cause =>
          have stopped : addParameters spec path method? start (item :: rest) = .error cause := by
            rw [addParameters, List.foldlM_cons, read]
            rfl
          obtain ⟨rfl, overruns⟩ :=
            (parameter?_eq_error_iff plainSpec.references here.references).mp read
          rw [stopped]
          constructor
          · intro same
            cases same
            exact ⟨rfl, .inl overruns⟩
          · intro failed
            rw [failed.1]
      | ok found? =>
          have inside : ¬ OverrunsWithin spec referenceLimit item := by
            intro overruns
            rw [(parameter?_eq_error_iff plainSpec.references here.references).mpr ⟨rfl, overruns⟩]
              at read
            cases read
          obtain ⟨next, continued⟩ : ∃ next, addParameters spec path method? start (item :: rest) =
              addParameters spec path method? next rest := by
            rw [addParameters, List.foldlM_cons, read]
            cases found? with
            | none => exact ⟨start, rfl⟩
            | some parameter =>
                obtain ⟨text, location⟩ := (declares_of_parameter? read).1.exists_text
                  plainSpec here
                change parameter.location = _ at location
                refine ⟨putParameter start parameter, ?_⟩
                simp only [bind, Except.bind, location]
                rfl
          rw [continued, ih behind, or_iff_right inside]

end Plain

/-- A parameter of the result is that of the last declaration of its slot, or it was there before and
no item declares its slot. -/
theorem last_of_addParameters (added : addParameters spec path method? start items = .ok result)
    (among : parameter ∈ result) {text : String} (location : parameter.location = .str text) :
    (∃ item, LastDeclares spec items parameter.slot item parameter.definition ∧
      parameter = declaredParameter path method? item parameter.slot parameter.definition) ∨
    ((∀ item ∈ items, ∀ another, ¬ Declares spec item parameter.slot another) ∧
      parameter ∈ start) := by
  have placed : parameter.isAt parameter.name text := ⟨rfl, location⟩
  -- a declaration in the slot of the parameter is one with its name and location
  have elsewhere : ∀ {items : List Node},
      (∀ item ∈ items, ∀ another, ¬ Declares spec item parameter.slot another) →
      ∀ item ∈ items, ∀ declared, parameter? spec path method? item = .ok (some declared) →
        ¬ declared.isAt parameter.name text := by
    intro items none_declares item inside declared read same
    have slot : declared.slot = parameter.slot := Prod.ext same.1 (same.2.trans location.symm)
    exact none_declares item inside _ (slot ▸ (declares_of_parameter? read).1)
  by_cases declared : ∃ item ∈ items, ∃ definition, Declares spec item parameter.slot definition
  · left
    obtain ⟨item, inside, declared⟩ := declared
    obtain ⟨front, item, back, rfl, ⟨definition, declares⟩, last⟩ := exists_last_of_exists
      (fun item => ∃ definition, Declares spec item parameter.slot definition) inside declared
    have later : ∀ later ∈ back, ∀ another, ¬ Declares spec later parameter.slot another :=
      fun later among another declares => last later among ⟨another, declares⟩
    have alone := onlyAt_of_last added (declares.parameter?_eq path method?) ⟨rfl, location⟩
      (elsewhere later)
    have same := alone.only parameter among placed
    have definitions : parameter.definition = definition := congrArg Parameter.definition same
    exact ⟨item, ⟨definitions ▸ declares, front, back, rfl, later⟩, definitions ▸ same⟩
  · right
    have none_declares : ∀ item ∈ items, ∀ another, ¬ Declares spec item parameter.slot another :=
      fun item inside another declares => declared ⟨item, inside, another, declares⟩
    exact ⟨none_declares,
      (mem_addParameters_of_not_isAt added (elsewhere none_declares) placed).mp among⟩

/-! ## Operations -/

section Operations

variable {pathItem operation : Members} {method : String} {shared own : List Node}
  (sharedRead : parameterItems pathItem = .ok shared) (ownRead : parameterItems operation = .ok own)

include sharedRead ownRead

theorem parametersOf_eq :
    parametersOf spec path pathItem method operation =
      (addParameters spec path none [] shared >>= fun gathered =>
        addParameters spec path (some method) gathered own) := by
  rw [parametersOf, sharedRead, ownRead]
  rfl

variable (plainSpec : spec.IsPlain) (plain : ∀ item ∈ shared ++ own, item.IsPlain)

include plainSpec plain

theorem parametersOf_eq_error_iff :
    parametersOf spec path pathItem method operation = .error fault ↔
      fault = .badValue ∧ ∃ item ∈ shared ++ own, OverrunsWithin spec referenceLimit item := by
  have sharedPlain := fun item among => plain item (List.mem_append_left own among)
  have ownPlain := fun item among => plain item (List.mem_append_right shared among)
  rw [parametersOf_eq sharedRead ownRead, bind_eq_error_iff,
    addParameters_eq_error_iff plainSpec sharedPlain]
  constructor
  · intro failed
    rcases failed with ⟨rfl, item, among, overruns⟩ | ⟨gathered, -, failed⟩
    · exact ⟨rfl, item, List.mem_append_left own among, overruns⟩
    · obtain ⟨rfl, item, among, overruns⟩ :=
        (addParameters_eq_error_iff plainSpec ownPlain).mp failed
      exact ⟨rfl, item, List.mem_append_right shared among, overruns⟩
  · intro stopped
    obtain ⟨rfl, item, among, overruns⟩ := stopped
    cases gathering : addParameters spec path none [] shared with
    | error cause =>
        exact .inl ⟨rfl, ((addParameters_eq_error_iff plainSpec sharedPlain).mp gathering).2⟩
    | ok gathered =>
        rcases List.mem_append.mp among with inShared | inOwn
        · exact .inl ⟨rfl, item, inShared, overruns⟩
        · exact .inr ⟨gathered, rfl,
            (addParameters_eq_error_iff plainSpec ownPlain).mpr ⟨rfl, item, inOwn, overruns⟩⟩

end Operations

def pagedDocument : Node :=
  .object [(.str "page", .object [(.str "name", .str "page")]), (.str "ids", .list [.int 1])]

def sharedDeclarations : List Node :=
  [.object [(.str "name", .str "page"), (.str "in", .str "query")], .int 5, referring "#/nowhere",
    .object [(.str "name", .str "id"), (.str "in", .str "path")]]

def ownDeclarations : List Node :=
  [.object [(.str "name", .str "sort"), (.str "in", .str "query")], referring "#/page"]

theorem isPlain_pagedDocument : pagedDocument.IsPlain := by
  refine ⟨?_, by decide⟩
  unfold Node.hasAsciiReferences
  decide +kernel

theorem isPlain_of_mem_declarations {item : Node}
    (among : item ∈ sharedDeclarations ++ ownDeclarations) : item.IsPlain := by
  have references : ∀ item ∈ sharedDeclarations ++ ownDeclarations,
      ∀ reference ∈ item.references, isAscii reference = true := by
    decide +kernel
  have locations : ∀ item ∈ sharedDeclarations ++ ownDeclarations,
      item.hasTextLocations = true := by
    decide
  exact ⟨references item among, locations item among⟩

end ApiReview
