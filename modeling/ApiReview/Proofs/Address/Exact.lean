import ApiReview.Proofs.Fix.Targets

/-! Exact addresses. The address of a way through keys and positions leads along
this way in every document, whatever characters the keys have and however much of
the way exists, so that no two ways share an address. The same holds for the
addresses of operations, responses, schemas and properties. -/

set_option autoImplicit false

namespace ApiReview.Address

open ApiReview.Text

variable {way : List (String ⊕ Nat)} {text : String}

/-! ## Ways -/

def exactPart : String ⊕ Nat → Part
  | .inl key => .name key
  | .inr index => .position (.ofNat index)

/-- Whether a key or a position has a text: all but positions with too many digits do. -/
def isWritable : String ⊕ Nat → Bool
  | .inl _ => true
  | .inr index => !Integer.isUnwritable (.ofNat index)

/-- The address of a way through keys and positions. -/
def ofWay (way : List (String ⊕ Nat)) : Except Fault String :=
  if way.all isWritable then .ok ("$" ++ String.join (way.map (Sum.elim member item)))
  else .error .badValue

private def exactStep : String ⊕ Nat → WrittenStep := Sum.elim .quoted .item

theorem exactPart_injective : Function.Injective exactPart := by
  intro step other same
  cases step with
  | inl key =>
      cases other with
      | inl other => cases same; rfl
      | inr other => cases same
  | inr index =>
      cases other with
      | inl other => cases same
      | inr other => cases same; rfl

theorem forward_exactPart (way : List (String ⊕ Nat)) :
    ∀ part ∈ way.map exactPart, isForward part = true := by
  intro part among
  obtain ⟨step, _, rfl⟩ := List.mem_map.mp among
  cases step <;> rfl

theorem isWritten_ofWay (written : ofWay way = .ok text) :
    IsWritten text (way.map exactStep) ∧ way.all isWritable = true := by
  rw [ofWay] at written
  split at written
  · rename_i writable
    cases written
    refine ⟨?_, writable⟩
    have joined : ∀ way : List (String ⊕ Nat),
        (String.join (way.map (Sum.elim member item))).toList =
          writtenText (way.map exactStep) := by
      intro way
      rw [String.toList_join, writtenText, List.flatMap_map, List.flatMap_map]
      refine congrArg List.flatten (List.map_congr_left fun step _ => ?_)
      cases step <;> rfl
    rw [IsWritten, String.toList_append, joined]
    rfl
  · cases written

theorem locate_ofWay (written : ofWay way = .ok text) (document : Node) :
    locate document text = .ok (way.map exactPart) := by
  obtain ⟨written, writable⟩ := isWritten_ofWay written
  refine written.locate_parts ?_ (forward_exactPart way) ?_ ?_ document
  · rw [List.map_map, List.map_map]
    refine List.map_congr_left fun step _ => ?_
    cases step <;> rfl
  · intro step among
    obtain ⟨step, inside, rfl⟩ := List.mem_map.mp among
    have short := List.all_eq_true.mp writable step inside
    cases step with
    | inl key => rfl
    | inr index => exact short
  · intro step among
    obtain ⟨step, _, rfl⟩ := List.mem_map.mp among
    cases step <;> rfl

/-! ## Targets -/

/-- A method as it stands in addresses. -/
abbrev Method := {method : String // method ∈ httpMethods}

/-- A part of a document that fixes and findings address. -/
inductive Target
  | operation (path : String) (method : Method)
  | response (path : String) (method : Method) (code : String)
  | responseSchema (path : String) (method : Method) (code mediaType : String)
  | schema (name : String)
  | property (owner : Target) (name : String)

namespace Target

/-- The address of a target. -/
def address : Target → String
  | operation path method => ofOperation path method
  | response path method code => ofResponse path method code
  | responseSchema path method code mediaType => ofResponseSchema path method code mediaType
  | schema name => ofSchema name
  | property owner name => ofProperty owner.address name

/-- The names on the way to a target. -/
def names : Target → List String
  | operation path method => ["paths", path, method]
  | response path method code => ["paths", path, method, "responses", code]
  | responseSchema path method code mediaType =>
    ["paths", path, method, "responses", code, "content", mediaType, "schema"]
  | schema name => ["components", "schemas", name]
  | property owner name => owner.names ++ ["properties", name]

private def steps : Target → List WrittenStep
  | operation path method => [.bare "paths", .quoted path, .bare (lower method)] ++ []
  | response path method code =>
    [.bare "paths", .quoted path, .bare (lower method)] ++ [.bare "responses", .quoted code]
  | responseSchema path method code mediaType =>
    [.bare "paths", .quoted path, .bare (lower method)] ++
      [.bare "responses", .quoted code, .bare "content", .quoted mediaType, .bare "schema"]
  | schema name => [.bare "components", .bare "schemas", .quoted name]
  | property owner name => owner.steps ++ [.bare "properties", .quoted name]

theorem isWritten_address (target : Target) : IsWritten target.address target.steps := by
  induction target with
  | operation path method => exact isWritten_ofOperation path method
  | response path method code => exact isWritten_ofResponse path method code
  | responseSchema path method code mediaType =>
      exact (((isWritten_ofResponse path method code).bare rfl).quoted mediaType).bare rfl
  | schema name => exact isWritten_ofSchema name
  | property owner name ih =>
      have written := (ih.bare (show ".properties".toList = '.' :: "properties".toList from rfl)).quoted name
      rwa [List.append_assoc] at written

theorem selector_steps (target : Target) :
    target.steps.map WrittenStep.selector = target.names.map memberSelector := by
  induction target with
  | operation path method | response path method code | responseSchema path method code mediaType =>
      simp [steps, names, WrittenStep.selector, memberSelector, lower_of_mem method method.2]
  | schema name => rfl
  | property owner name ih =>
      rw [steps, names, List.map_append, List.map_append, ih]
      rfl

theorem words_steps (target : Target) :
    ∀ step ∈ target.steps, step.isPlain = true ∧ step.isReserved = false := by
  induction target with
  | operation path method =>
      exact words_ofOperation (isMethodKey_of_mem method method.2) path [] (by simp)
  | response path method code =>
      refine words_ofOperation (isMethodKey_of_mem method method.2) path _ ?_
      simp only [List.forall_mem_cons]
      exact ⟨by decide, ⟨rfl, rfl⟩, by simp⟩
  | responseSchema path method code mediaType =>
      refine words_ofOperation (isMethodKey_of_mem method method.2) path _ ?_
      simp only [List.forall_mem_cons]
      exact ⟨by decide, ⟨rfl, rfl⟩, by decide, ⟨rfl, rfl⟩, by decide, by simp⟩
  | schema name => exact words_ofSchema name
  | property owner name ih =>
      refine List.forall_mem_append.mpr ⟨ih, ?_⟩
      simp only [List.forall_mem_cons]
      exact ⟨by decide, ⟨rfl, rfl⟩, by simp⟩

theorem locate_address (target : Target) (document : Node) :
    locate document target.address = .ok (target.names.map .name) :=
  locate_words target.isWritten_address target.selector_steps target.words_steps document

theorem length_names (target : Target) :
    ∃ deeper, target.names.length = 3 + 2 * deeper ∨ target.names.length = 8 + 2 * deeper := by
  induction target with
  | operation path method => exact ⟨0, .inl rfl⟩
  | response path method code => exact ⟨1, .inl rfl⟩
  | responseSchema path method code mediaType => exact ⟨0, .inr rfl⟩
  | schema name => exact ⟨0, .inl rfl⟩
  | property owner name ih =>
      obtain ⟨deeper, short | long⟩ := ih
      · exact ⟨deeper + 1, .inl (by simp [names, short]; omega)⟩
      · exact ⟨deeper + 1, .inr (by simp [names, long]; omega)⟩

/-- No other way ends as that to a property: its length or the word before the last name differs. -/
theorem names_ne_property {target : Target} (other : ∀ owner name, target ≠ property owner name)
    (owner : Target) (name : String) : target.names ≠ (property owner name).names := by
  intro same
  obtain ⟨deeper, size⟩ := owner.length_names
  have longer := congrArg List.length same
  cases target with
  | operation path method | schema path =>
      simp only [names, List.length_append, List.length_cons, List.length_nil] at longer
      omega
  | response path method code =>
      simp only [names, List.length_append, List.length_cons, List.length_nil] at longer
      have word := congrArg (fun names => names[3]?) same
      simp [names, show owner.names.length = 3 by omega] at word
  | responseSchema path method code mediaType =>
      simp only [names, List.length_append, List.length_cons, List.length_nil] at longer
      omega
  | property first last => exact other first last rfl

theorem names_injective : Function.Injective names := by
  intro target
  induction target with
  | property owner name ih =>
      intro other same
      cases other with
      | property otherOwner otherName =>
          obtain ⟨front, last⟩ := List.append_inj' same rfl
          cases last
          rw [ih front]
      | _ => exact absurd same.symm (names_ne_property (by simp) owner name)
  | _ =>
      intro other same
      cases other with
      | property owner name => exact absurd same (names_ne_property (by simp) owner name)
      | _ => simp_all [names, Subtype.ext_iff]

end Target

/-! ## Exactness -/

theorem exists_ofWay_iff : (∃ text, ofWay way = .ok text) ↔
    ∀ index, .inr index ∈ way → Integer.isUnwritable (.ofNat index) = false := by
  constructor
  · rintro ⟨text, written⟩ index among
    simpa [isWritable] using List.all_eq_true.mp (isWritten_ofWay written).2 _ among
  · intro short
    refine ⟨_, if_pos (List.all_eq_true.mpr fun step among => ?_)⟩
    cases step with
    | inl key => rfl
    | inr index =>
        rw [isWritable, short index among]
        rfl

/-- The text of a way through any keys and positions, which exists unless a position has too many
digits for one, leads along exactly this way in every document, and that of a target along the
names on the way to it. Other ways and other targets have other texts. -/
theorem built_addresses_exact :
    (∀ way, (∃ text, ofWay way = .ok text) ↔
      ∀ index, .inr index ∈ way → Integer.isUnwritable (.ofNat index) = false) ∧
    (∀ way text, ofWay way = .ok text → ∀ document,
      locate document text = .ok (way.map exactPart)) ∧
    (∀ way other text, ofWay way = .ok text → ofWay other = .ok text → way = other) ∧
    (∀ (target : Target) document,
      locate document target.address = .ok (target.names.map .name)) ∧
    ∀ target other : Target, target.address = other.address → target = other := by
  refine ⟨fun _ => exists_ofWay_iff, fun _ _ => locate_ofWay, ?_, Target.locate_address, ?_⟩
  · intro way other text written otherWritten
    have located := (locate_ofWay written .null).symm.trans (locate_ofWay otherWritten .null)
    exact exactPart_injective.list_map (Except.ok.inj located)
  · intro target other same
    have located := target.locate_address .null
    rw [same, other.locate_address] at located
    have named : Function.Injective Part.name := fun _ _ => Part.name.inj
    exact (Target.names_injective (named.list_map (Except.ok.inj located))).symm

theorem built_addresses_exact_quote :
    ofWay [.inl "it's [?(@.in)]", .inr 2] = .ok "$['it\\'s [?(@.in)]'][2]" ∧
      locate (.list []) "$['it\\'s [?(@.in)]'][2]" =
        .ok [.name "it's [?(@.in)]", .position 2] ∧
      (∀ way, ofWay way = .ok "$['it\\'s [?(@.in)]'][2]" →
        way = [.inl "it's [?(@.in)]", .inr 2]) ∧
      (Target.schema "A").address ≠ ((Target.schema "A").property "A").address := by
  obtain ⟨_, located, distinct, _, apart⟩ := built_addresses_exact
  have short : Integer.isUnwritable 2 = false := by decide +kernel
  have written : ofWay [.inl "it's [?(@.in)]", .inr 2] = .ok "$['it\\'s [?(@.in)]'][2]" := by
    refine (if_pos ?_).trans rfl
    simp [isWritable, short]
  refine ⟨written, located _ _ written (.list []), fun way same => ?_, fun same => ?_⟩
  · exact distinct way _ _ same written
  · exact nomatch apart _ _ same

end ApiReview.Address
