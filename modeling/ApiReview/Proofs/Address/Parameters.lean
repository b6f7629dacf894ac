import ApiReview.Proofs.Address.Exact
import ApiReview.Proofs.Address.Filtered

/-! Addresses of parameters. The filter that is written for a name and a location
selects, in any list, the first object that has both as its name and its location,
whatever characters they hold and whatever else is in the list. Where a single item
is such an object, the address goes on below it, also to what does not exist yet. -/

set_option autoImplicit false

namespace ApiReview.Address

open ApiReview.Text WrittenStep

variable {conditions : List Condition} {above below : List String} {path name location text : String}
  {method? : Option Method} {document owner item : Node} {items : List Node} {index : Nat}
  {chosen : Part × Node} {front back : List (Part × Node)} {steps : List WrittenStep}

/-! ## Items that pass a filter -/

/-- An item that describes the parameter with a name in a location. -/
def Describes (name location : String) (item : Node) : Prop :=
  ∃ members, item = .object members ∧ Members.get? members "name" = some (.str name) ∧
    Members.get? members "in" = some (.str location)

theorem relates_equal_str {value : Node} :
    Condition.relates .equal (.str text) value = true ↔ value = .str text := by
  cases value with
  | str other =>
      have ordered : Condition.relates .equal (.str text) (.str other) =
          (compareTexts other text == .eq) := rfl
      rw [ordered, compareTexts, Node.str.injEq]
      by_cases same : other = text
      · simp [same]
      · by_cases less : other < text <;> simp [same, less]
  | _ => simp [Condition.relates, Literal.compare?]

theorem holds_partIs {part : String} {node : Node} :
    (partIs part text).holds node = true ↔ node.part? (.name part) = some (.str text) := by
  simp only [Condition.holds, partIs, walk_name]
  cases node.part? (.name part) with
  | none => simp
  | some value => simp [relates_equal_str]

theorem parameterConditions_iff (given : location ≠ "") :
    (parameterConditions name (some location)).all (·.holds item) = true ↔
      Describes name location item := by
  have asked : askedLocation? (some location) = some location := by
    simp [askedLocation?, Option.filter_some, given]
  rw [parameterConditions, asked]
  simp only [Option.toList_some, List.map_cons, List.map_nil, List.all_cons, List.all_nil,
    Bool.and_true, Bool.and_eq_true, holds_partIs]
  constructor
  · rintro ⟨named, located⟩
    cases item with
    | object members => exact ⟨members, rfl, named, located⟩
    | _ => cases named
  · rintro ⟨members, rfl, named, located⟩
    exact ⟨named, located⟩

/-! ## Locating behind a filter -/

/-- The first candidate that passes the filter is located, and nothing if none does. -/
theorem locate?_filter (reached : document.at? (above.map .name) = some owner) :
    locate? (above.map memberSelector ++ [.filter conditions]) document =
      ((Selector.candidates owner).find? fun candidate => conditions.all (·.holds candidate.2)).map
        fun candidate => above.map .name ++ [candidate.1] := by
  have first := head?_find_filter conditions [] owner
  rw [locate?, List.reverse_append, List.reverse_singleton, List.singleton_append,
    locateBackwards, List.reverse_reverse, head?_find_members, reached, Option.bind_some]
  rw [List.map_nil] at first
  rw [first]
  have tests : isMeant conditions [] = fun candidate => conditions.all (·.holds candidate.2) := by
    funext candidate
    simp [isMeant]
  rw [tests]
  cases (Selector.candidates owner).find? fun candidate => conditions.all (·.holds candidate.2) with
  | none => rfl
  | some candidate => simp

/-- Where a single candidate passes the filter, what the address names below it is located there,
however much of it exists. -/
theorem locateBackwards_single (reached : document.at? (above.map .name) = some owner)
    (split : Selector.candidates owner = front ++ chosen :: back)
    (passes : conditions.all (·.holds chosen.2) = true)
    (others : ∀ candidate ∈ front ++ back, conditions.all (·.holds candidate.2) = false)
    (missing : List Part) :
    locateBackwards document
        (above.map memberSelector ++ .filter conditions :: below.map memberSelector).reverse missing =
      some (above.map .name ++ chosen.1 :: below.map .name ++ missing) := by
  -- By induction from the end: the last name is matched below the chosen item or dropped.
  have first (below : List String) :
      (find (above.map memberSelector ++ .filter conditions :: below.map memberSelector)
          document).head? =
        (chosen.2.at? (below.map .name)).map fun found =>
          (above.map .name ++ chosen.1 :: below.map .name, found) := by
    have meant : (Selector.candidates owner).find? (isMeant conditions below) =
        if (chosen.2.at? (below.map .name)).isSome then some chosen else none := by
      have skipped (candidates : List (Part × Node))
          (listed : ∀ candidate ∈ candidates, candidate ∈ front ++ back) :
          candidates.find? (isMeant conditions below) = none := by
        rw [List.find?_eq_none]
        intro candidate among
        rw [isMeant, others candidate (listed candidate among)]
        simp
      rw [split, List.find?_append, skipped front fun _ => List.mem_append_left _, Option.none_or,
        List.find?_cons]
      rw [skipped back fun _ => List.mem_append_right _, isMeant, passes, Bool.true_and]
      cases (chosen.2.at? (below.map .name)).isSome <;> rfl
    rw [head?_find_members, reached, Option.bind_some, head?_find_filter, meant]
    cases found : chosen.2.at? (below.map .name) with
    | none => simp
    | some value => simp [found]
  induction below using List.reverseRecOn generalizing missing with
  | nil =>
      have matched := first []
      rw [List.map_nil, List.map_nil, Node.at?_nil, Option.map_some] at matched
      exact locateBackwards_of_find matched missing
  | append_singleton below last ih =>
      cases found : chosen.2.at? ((below ++ [last]).map .name) with
      | some value =>
          have matched := first (below ++ [last])
          rw [found, Option.map_some] at matched
          exact locateBackwards_of_find matched missing
      | none =>
          have whole : above.map memberSelector ++
              .filter conditions :: (below ++ [last]).map memberSelector =
                (above.map memberSelector ++ .filter conditions :: below.map memberSelector) ++
                  [memberSelector last] := by simp
          have unmatched := first (below ++ [last])
          rw [found, Option.map_none, whole] at unmatched
          have named : (memberSelector last).newPart? = some (.name last) := rfl
          rw [whole, List.reverse_append, List.reverse_singleton, List.singleton_append,
            locateBackwards, List.reverse_reverse, unmatched, named]
          simpa using ih (.name last :: missing)

/-! ## Parameter lists -/

/-- The names on the way to the parameters of an operation, or to those of a path. -/
def parameterNames (path : String) (method? : Option Method) : List String :=
  ["paths", path] ++ (method?.map Subtype.val).toList ++ ["parameters"]

private def listSteps (path : String) (method? : Option Method) : List WrittenStep :=
  [.bare "paths", .quoted path] ++ (method?.map fun method => .bare method.val).toList ++
    [.bare "parameters"]

theorem isWritten_listSteps (path : String) (method? : Option Method) :
    IsWritten (ofParameters path (method?.map Subtype.val)) (listSteps path method?) := by
  cases method? with
  | none => exact (isWritten_ofPath path).bare rfl
  | some method =>
      have some_letter : ∀ method ∈ httpMethods, method.isEmpty = false := by decide
      have written := isWritten_ofParameters (some_letter method method.2) path
      rwa [lower_of_mem method method.2] at written

theorem selector_listSteps (path : String) (method? : Option Method) :
    (listSteps path method?).map WrittenStep.selector =
      (parameterNames path method?).map memberSelector := by
  cases method? <;> rfl

theorem words_listSteps (path : String) (method? : Option Method) :
    ∀ step ∈ listSteps path method?, step.isPlain = true ∧ step.isReserved = false := by
  have fixed (word : String)
      (plain : (WrittenStep.bare word).isPlain = true ∧ (WrittenStep.bare word).isReserved = false)
      (step : WrittenStep) (among : step ∈ [WrittenStep.bare word]) :
      step.isPlain = true ∧ step.isReserved = false := List.mem_singleton.mp among ▸ plain
  intro step among
  rw [listSteps, List.mem_append, List.mem_append, List.mem_cons] at among
  rcases among with ((rfl | quoted) | method) | last
  · decide
  · rw [List.mem_singleton.mp quoted]
    exact ⟨rfl, rfl⟩
  · rw [Option.mem_toList, Option.map_eq_some_iff] at method
    obtain ⟨method, -, rfl⟩ := method
    obtain ⟨plain, free⟩ := isPlainName_lower (isMethodKey_of_mem method method.2)
    rw [lower_of_mem method method.2] at plain free
    exact ⟨isBareWord_of_isPlainName plain, free⟩
  · exact fixed "parameters" (by decide) step last

theorem locate_parameterList (path : String) (method? : Option Method) (document : Node) :
    locate document (ofParameters path (method?.map Subtype.val)) =
      .ok ((parameterNames path method?).map .name) :=
  locate_words (isWritten_listSteps path method?) (selector_listSteps path method?)
    (words_listSteps path method?) document

/-- The address of a parameter, and of what is named below it, is read as a filter behind the way to
the list. -/
theorem locate_parameter_below (words : ∀ member ∈ below,
      (WrittenStep.bare member).isPlain = true ∧ (WrittenStep.bare member).isReserved = false)
    (written : IsWritten text (listSteps path method? ++ .parameter name (some location) ::
      below.map .bare)) (document : Node) :
    locate document text =
      match locate? ((parameterNames path method?).map memberSelector ++
          .filter (parameterConditions name (some location)) :: below.map memberSelector) document with
      | some parts => .ok parts
      | none => .error (.refused (.unmatched text)) := by
  have both : ∀ step ∈ listSteps path method? ++ WrittenStep.parameter name (some location) ::
      below.map WrittenStep.bare, step.isPlain = true ∧ step.isReserved = false := by
    intro step among
    rcases List.mem_append.mp among with listed | behind
    · exact words_listSteps path method? step listed
    · rcases List.mem_cons.mp behind with rfl | member
      · exact ⟨rfl, rfl⟩
      · obtain ⟨word, inside, rfl⟩ := List.mem_map.mp member
        exact words word inside
  have read := ofText_written written (fun step among => (both step among).1)
    (fun step among => (both step among).2)
  have uncrossed := crosses_written (listSteps path method? ++
    WrittenStep.parameter name (some location) :: below.map WrittenStep.bare) document
  have selects : (listSteps path method? ++ WrittenStep.parameter name (some location) ::
        below.map WrittenStep.bare).map WrittenStep.selector =
      (parameterNames path method?).map memberSelector ++
        .filter (parameterConditions name (some location)) :: below.map memberSelector := by
    rw [List.map_append, List.map_cons, selector_listSteps, List.map_map]
    rfl
  rw [selects] at read uncrossed
  rw [locate, read]
  change (if Address.crosses _ document = true then _ else _) = _
  rw [uncrossed]
  rfl

section Lists

variable (listed : document.at? ((parameterNames path method?).map .name) = some (.list items))
  (given : location ≠ "")

include listed

theorem locate_parameter (document_text : text =
      ofParameter path (method?.map Subtype.val) name (some location)) :
    locate document text =
      match (numbered items).find? fun candidate =>
        (parameterConditions name (some location)).all (·.holds candidate.2) with
      | some candidate => .ok ((parameterNames path method?).map .name ++ [candidate.1])
      | none => .error (.refused (.unmatched text)) := by
  have written : IsWritten text (listSteps path method? ++
      .parameter name (some location) :: [].map WrittenStep.bare) :=
    document_text ▸ (isWritten_listSteps path method?).parameter name (some location)
  rw [locate_parameter_below (by simp) written, List.map_nil, locate?_filter listed]
  rw [Selector.candidates]
  cases (numbered items).find? fun candidate =>
    (parameterConditions name (some location)).all (·.holds candidate.2) <;> rfl

include given

/-- The first item that describes the parameter is the one that its address leads to. -/
theorem locate_parameter_first (here : items[index]? = some item)
    (described : Describes name location item)
    (first : ∀ earlier other, earlier < index → items[earlier]? = some other →
      ¬ Describes name location other) :
    locate document (ofParameter path (method?.map Subtype.val) name (some location)) =
      .ok ((parameterNames path method?).map .name ++ [.position (.ofNat index)]) := by
  have found : (numbered items).find? (fun candidate =>
      (parameterConditions name (some location)).all (·.holds candidate.2)) =
        some (.position (.ofNat index), item) := by
    have placed := getElem?_numbered items index
    rw [here, Option.map_some, List.getElem?_eq_some_iff] at placed
    obtain ⟨inside, placed⟩ := placed
    refine List.find?_eq_some_iff_getElem.mpr
      ⟨(parameterConditions_iff given).mpr described, index, inside, placed, ?_⟩
    intro earlier before
    obtain ⟨other, held, shape⟩ := Option.map_eq_some_iff.mp
      ((getElem?_numbered items earlier).symm.trans
        (List.getElem?_eq_getElem (before.trans inside)))
    rw [← shape, Bool.not_eq_true', Bool.eq_false_iff, ne_eq, parameterConditions_iff given]
    exact first earlier other before held
  rw [locate_parameter listed rfl, found]

/-- Where no item describes the parameter, its address leads nowhere. -/
theorem locate_parameter_absent (absent : ∀ item ∈ items, ¬ Describes name location item) :
    locate document (ofParameter path (method?.map Subtype.val) name (some location)) =
      .error (.refused (.unmatched (ofParameter path (method?.map Subtype.val) name
        (some location)))) := by
  have none_found : (numbered items).find? (fun candidate =>
      (parameterConditions name (some location)).all (·.holds candidate.2)) = none := by
    rw [List.find?_eq_none]
    intro candidate among
    obtain ⟨⟨item, position⟩, held, rfl⟩ := List.mem_map.mp among
    rw [parameterConditions_iff given]
    exact absent item ((List.mem_zipIdx' held).2 ▸ List.getElem_mem _)
  rw [locate_parameter listed rfl, none_found]

/-- Where one item describes the parameter, names behind the address lead below it. -/
theorem locate_parameter_members (here : items[index]? = some item)
    (described : Describes name location item)
    (only : ∀ other another, items[other]? = some another → Describes name location another →
      other = index)
    (below : List String) (words : ∀ member ∈ below,
      (WrittenStep.bare member).isPlain = true ∧ (WrittenStep.bare member).isReserved = false)
    (written : IsWritten text (listSteps path method? ++ .parameter name (some location) ::
      below.map .bare)) :
    locate document text = .ok ((parameterNames path method?).map .name ++
      .position (.ofNat index) :: below.map .name) := by
  have placed := getElem?_numbered items index
  rw [here, Option.map_some] at placed
  obtain ⟨inside, shape⟩ := List.getElem?_eq_some_iff.mp placed
  have split : Selector.candidates (.list items) =
      (numbered items).take index ++ (.position (.ofNat index), item) ::
        (numbered items).drop (index + 1) := by
    rw [← shape, List.getElem_cons_drop, List.take_append_drop]
    rfl
  have others : ∀ candidate ∈ (numbered items).take index ++ (numbered items).drop (index + 1),
      (parameterConditions name (some location)).all (·.holds candidate.2) = false := by
    intro candidate among
    rw [Bool.eq_false_iff, ne_eq, parameterConditions_iff given]
    intro describes
    have place : ∃ other, other ≠ index ∧ (numbered items)[other]? = some candidate := by
      rcases List.mem_append.mp among with before | behind
      · obtain ⟨other, found⟩ := List.mem_iff_getElem?.mp before
        rw [List.getElem?_take] at found
        split at found
        · exact ⟨other, by omega, found⟩
        · cases found
      · obtain ⟨other, found⟩ := List.mem_iff_getElem?.mp behind
        rw [List.getElem?_drop] at found
        exact ⟨index + 1 + other, by omega, found⟩
    obtain ⟨other, different, found⟩ := place
    rw [getElem?_numbered, Option.map_eq_some_iff] at found
    obtain ⟨another, held, rfl⟩ := found
    exact different (only other another held describes)
  rw [locate_parameter_below words written, locate?,
    locateBackwards_single listed split ((parameterConditions_iff given).mpr described) others,
    List.append_nil]

end Lists

/-- In a list of any items at the place of the parameters of an operation or path, the address of a
parameter leads to the first object that has its name and its location, and nowhere if there is
none. Where there is a single one, the address goes on to the maximum of its schema, whether or not
that exists. -/
theorem parameter_filter_selects (name : String)
    (listed : document.at? ((parameterNames path method?).map .name) = some (.list items))
    (given : location ≠ "") :
    locate document (ofParameters path (method?.map Subtype.val)) =
        .ok ((parameterNames path method?).map .name) ∧
      (∀ index item, items[index]? = some item → Describes name location item →
        (∀ earlier other, earlier < index → items[earlier]? = some other →
          ¬ Describes name location other) →
        locate document (ofParameter path (method?.map Subtype.val) name (some location)) =
          .ok ((parameterNames path method?).map .name ++ [.position (.ofNat index)])) ∧
      ((∀ item ∈ items, ¬ Describes name location item) →
        locate document (ofParameter path (method?.map Subtype.val) name (some location)) =
          .error (.refused (.unmatched (ofParameter path (method?.map Subtype.val) name
            (some location))))) ∧
      ∀ index item, items[index]? = some item → Describes name location item →
        (∀ other another, items[other]? = some another → Describes name location another →
          other = index) →
        locate document (ofParameter path (method?.map Subtype.val) name (some location) ++
            ".schema" ++ ".maximum") =
          .ok ((parameterNames path method?).map .name ++
            [.position (.ofNat index), .name "schema", .name "maximum"]) := by
  refine ⟨locate_parameterList path method? document,
    fun _ _ => locate_parameter_first listed given, locate_parameter_absent listed given, ?_⟩
  intro index item here described only
  have written := (((isWritten_listSteps path method?).parameter name (some location)).bare
    (show ".schema".toList = '.' :: "schema".toList from rfl)).bare
    (show ".maximum".toList = '.' :: "maximum".toList from rfl)
  simp only [List.append_assoc, List.cons_append, List.nil_append] at written
  exact locate_parameter_members listed given here described only ["schema", "maximum"] (by decide)
    written

/-- A parameter whose name closes quotes and filters, between items of other kinds. -/
def awkwardItems : List Node :=
  [.str "x", .object [(.str "in", .str "query")],
    .object [(.str "name", .str "a' & @.in=='path')] \\"), (.str "in", .str "query")]]

def awkwardDocument : Node :=
  .object [(.str "paths", .object [(.str "/it's", .object [(.str "parameters",
    .list awkwardItems)])])]

theorem parameter_filter_selects_awkward :
    locate awkwardDocument (ofParameter "/it's" none "a' & @.in=='path')] \\" (some "query")) =
        .ok [.name "paths", .name "/it's", .name "parameters", .position 2] ∧
      locate awkwardDocument (ofParameter "/it's" none "a" (some "query")) =
        .error (.refused (.unmatched (ofParameter "/it's" none "a" (some "query")))) ∧
      locate awkwardDocument (ofParameter "/it's" none "a' & @.in=='path')] \\" (some "query") ++
          ".schema" ++ ".maximum") =
        .ok [.name "paths", .name "/it's", .name "parameters", .position 2, .name "schema",
          .name "maximum"] := by
  have listed : awkwardDocument.at? ((parameterNames "/it's" none).map .name) =
      some (.list awkwardItems) := by rfl
  have last : ∀ name index item, awkwardItems[index]? = some item →
      Describes name "query" item → index = 2 ∧ name = "a' & @.in=='path')] \\" := by
    rintro name index item held ⟨members, rfl, named, -⟩
    match index with
    | 0 => cases held
    | 1 =>
        cases held
        cases named
    | 2 =>
        cases held
        cases named
        exact ⟨rfl, rfl⟩
  have describes : Describes "a' & @.in=='path')] \\" "query" awkwardItems[2] :=
    ⟨_, rfl, rfl, rfl⟩
  have given : "query" ≠ "" := by decide
  obtain ⟨-, first, -, beyond⟩ := parameter_filter_selects "a' & @.in=='path')] \\" listed given
  obtain ⟨-, -, absent, -⟩ := parameter_filter_selects "a" listed given
  refine ⟨first 2 _ rfl describes ?_, absent ?_, beyond 2 _ rfl describes ?_⟩
  · intro earlier other before held described
    exact before.ne (last _ earlier other held described).1
  · intro item among described
    obtain ⟨index, held⟩ := List.mem_iff_getElem?.mp among
    exact absurd (last _ index item held described).2 (by decide)
  · exact fun other another held described => (last _ other another held described).1

end ApiReview.Address
