import ApiReview.Proofs.Node.Named
import ApiReview.Proofs.Number.Digits
import ApiReview.Proofs.Path.Casing
import ApiReview.Spec.Reference

/-! Documents whose optional parts, where they are there at all, are of the kind
that their names ask for. Nothing else is asked: a reference may lead anywhere, and
the items of a list may be anything. -/

set_option autoImplicit false

namespace ApiReview

open ApiReview.Text

/-! ## Ordinary documents -/

def sectionNames : List String :=
  ["paths", "components", "schemas", "responses", "content", "properties", "info"]

namespace Node

/-- Whether a node is null or an object. -/
def isSection (node : Node) : Bool := node.isNull || node.isObject

/-- Whether a node is a list. -/
def isList (node : Node) : Bool := node.items?.isSome

/-- Whether a value is of the kind that its key asks for. -/
def suits : Key → Node → Bool
  | .str name, value =>
    (!sectionNames.contains name || value.isSection)
      && (name != "content" || (value.members?.getD []).all fun (_, media) => media.isSection)
      && (name != "parameters" || value.isList || value.isSection)
      && (name != "in" || !(value.isList || value.isObject))
      && (name != "$ref" || value.text?.any isAscii)
  | _, _ => false

mutual

/-- Whether all keys in a document are names that their values suit. -/
def isOrdinary : Node → Bool
  | .list items => areOrdinary items
  | .object members => holdOrdinary members
  | _ => true

/-- Whether all items of a list are ordinary. -/
def areOrdinary : List Node → Bool
  | [] => true
  | item :: rest => item.isOrdinary && areOrdinary rest

/-- Whether all members of an object suit their keys and are ordinary. -/
def holdOrdinary : List (Key × Node) → Bool
  | [] => true
  | (key, value) :: rest => suits key value && value.isOrdinary && holdOrdinary rest

end

/-- What is somewhere in a document, or the document itself. -/
inductive Contains (document : Node) : Node → Prop where
  | whole : Contains document document
  | member {members : Members} {key : Key} {value : Node} :
      Contains document (.object members) → (key, value) ∈ members → Contains document value
  | item {items : List Node} {item : Node} :
      Contains document (.list items) → item ∈ items → Contains document item

variable {document item value : Node} {items : List Node} {members : Members} {key : Key}
  {name : String}

theorem isOrdinary_of_mem (ordinary : areOrdinary items = true) (among : item ∈ items) :
    item.isOrdinary = true := by
  induction items with
  | nil => cases among
  | cons first rest ih =>
      rw [areOrdinary, Bool.and_eq_true] at ordinary
      rcases List.mem_cons.mp among with rfl | behind
      · exact ordinary.1
      · exact ih ordinary.2 behind

theorem suits_of_mem (ordinary : holdOrdinary members = true) (among : (key, value) ∈ members) :
    suits key value = true ∧ value.isOrdinary = true := by
  induction members with
  | nil => cases among
  | cons first rest ih =>
      obtain ⟨head, held⟩ := first
      rw [holdOrdinary, Bool.and_eq_true, Bool.and_eq_true] at ordinary
      rcases List.mem_cons.mp among with here | behind
      · cases here
        exact ordinary.1
      · exact ih ordinary.2 behind

theorem Contains.isOrdinary (inside : document.Contains value) (ordinary : document.isOrdinary = true) :
    value.isOrdinary = true := by
  induction inside with
  | whole => exact ordinary
  | member _ among ih =>
      rw [Node.isOrdinary] at ih
      exact (suits_of_mem ih among).2
  | item _ among ih =>
      rw [Node.isOrdinary] at ih
      exact isOrdinary_of_mem ih among

/-! ## Parts of ordinary documents -/

theorem optional_of_isSection {node? : Option Node}
    (kind : ∀ node, node? = some node → node.isSection = true) :
    ∃ part, Node.optional node? = .object part ∧ (part = [] ∨ node? = some (.object part)) := by
  cases node? with
  | none => exact ⟨[], rfl, .inl rfl⟩
  | some node =>
      have own := kind node rfl
      cases node with
      | null => exact ⟨[], rfl, .inl rfl⟩
      | object part =>
          refine ⟨part, ?_, .inr rfl⟩
          cases part <;> rfl
      | _ => cases own

section Parts

theorem Contains.get? (inside : document.Contains (.object members))
    (read : Members.get? members name = some value) : document.Contains value :=
  inside.member (Members.mem_of_lookup read)

variable (ordinary : document.isOrdinary = true) (inside : document.Contains (.object members))

include ordinary inside

theorem suits_of_contains (among : (key, value) ∈ members) : suits key value = true := by
  have own := inside.isOrdinary ordinary
  rw [Node.isOrdinary] at own
  exact (suits_of_mem own among).1

theorem key_of_contains (among : (key, value) ∈ members) : ∃ name, key = .str name := by
  have fits := suits_of_contains ordinary inside among
  cases key with
  | str name => exact ⟨name, rfl⟩
  | _ => cases fits

theorem reference_of_contains (read : Members.get? members "$ref" = some value) :
    ∃ reference, value = .str reference ∧ isAscii reference = true := by
  have fits := suits_of_contains ordinary inside (Members.mem_of_lookup read)
  simp only [suits, Bool.and_eq_true] at fits
  have text : value.text?.any isAscii = true := fits.2
  cases value with
  | str reference => exact ⟨reference, rfl, text⟩
  | _ => cases text

theorem scalar_of_contains (read : Members.get? members "in" = some value) :
    (value.isList || value.isObject) = false := by
  have fits := suits_of_contains ordinary inside (Members.mem_of_lookup read)
  simp only [suits, Bool.and_eq_true] at fits
  simpa using fits.1.2

theorem list_of_contains (read : Members.get? members "parameters" = some value) :
    (value.isList || value.isSection) = true := by
  have fits := suits_of_contains ordinary inside (Members.mem_of_lookup read)
  simp only [suits, Bool.and_eq_true] at fits
  simpa [Bool.or_assoc] using fits.1.1.2

theorem isSection_of_contains (listed : name ∈ sectionNames)
    (read : Members.get? members name = some value) : value.isSection = true := by
  have fits := suits_of_contains ordinary inside (Members.mem_of_lookup read)
  simp only [suits, Bool.and_eq_true] at fits
  simpa [listed] using fits.1.1.1.1

/-- An optional part is an object: the part itself, or an empty one in its place. -/
theorem section_of_contains (listed : name ∈ sectionNames) :
    ∃ part, Node.optional (Members.get? members name) = .object part ∧
      (part = [] ∨ Members.get? members name = some (.object part)) :=
  optional_of_isSection fun _ read => isSection_of_contains ordinary inside listed read

theorem media_of_contains {part : Members} (read : Members.get? members "content" = some (.object part))
    (among : (key, value) ∈ part) : value.isSection = true := by
  have fits := suits_of_contains ordinary inside (Members.mem_of_lookup read)
  simp only [suits, Bool.and_eq_true] at fits
  have media : part.all (fun entry => entry.2.isSection) = true := fits.1.1.1.2
  exact List.all_eq_true.mp media _ among

end Parts
end Node

/-! ## Overlong references -/

/-- Whether a reference has a position with more digits than a number may have. -/
def isOverlong (reference : String) : Bool :=
  (Address.referenceNames? reference).any fun names =>
    names.any fun token => isIndexToken token && Integer.isTooLong token.toList

namespace Node

mutual

/-- The texts of all references in a document. -/
def references : Node → List String
  | .list items => referencesOfItems items
  | .object members => referencesOfMembers members
  | _ => []

/-- The texts of all references in the items of a list. -/
def referencesOfItems : List Node → List String
  | [] => []
  | item :: rest => item.references ++ referencesOfItems rest

/-- The texts of all references in the members of an object, its own among them. -/
def referencesOfMembers : List (Key × Node) → List String
  | [] => []
  | (key, value) :: rest =>
    (if key = .str "$ref" then value.text?.toList else []) ++ value.references
      ++ referencesOfMembers rest

end

/-- Whether some reference in a document is overlong. -/
def hasOverlongReference (document : Node) : Bool := document.references.any isOverlong

section References

variable {document item value : Node} {items : List Node} {members : Members} {key : Key}

theorem references_of_item (among : item ∈ items) : item.references ⊆ referencesOfItems items := by
  induction items with
  | nil => cases among
  | cons first rest ih =>
      rw [referencesOfItems]
      rcases List.mem_cons.mp among with rfl | behind
      · exact List.subset_append_left _ _
      · exact fun _ held => List.mem_append_right _ (ih behind held)

theorem references_of_member (among : (key, value) ∈ members) :
    value.references ⊆ referencesOfMembers members ∧
      (key = .str "$ref" → ∀ reference, value = .str reference →
        reference ∈ referencesOfMembers members) := by
  induction members with
  | nil => cases among
  | cons first rest ih =>
      obtain ⟨head, held⟩ := first
      rw [referencesOfMembers]
      rcases List.mem_cons.mp among with here | behind
      · cases here
        refine ⟨fun _ held => by simp [held], ?_⟩
        rintro rfl reference rfl
        simp [Node.text?]
      · exact ⟨fun _ held => List.mem_append_right _ ((ih behind).1 held),
          fun same reference text => List.mem_append_right _ ((ih behind).2 same reference text)⟩

theorem Contains.references (inside : document.Contains value) :
    value.references ⊆ document.references := by
  induction inside with
  | whole => exact List.Subset.refl _
  | member _ among ih =>
      rw [Node.references] at ih
      exact List.Subset.trans (references_of_member among).1 ih
  | item _ among ih =>
      rw [Node.references] at ih
      exact List.Subset.trans (references_of_item among) ih

theorem mem_references {reference : String} (inside : document.Contains (.object members))
    (read : Members.get? members "$ref" = some (.str reference)) : reference ∈ document.references := by
  refine inside.references ?_
  rw [Node.references]
  exact (references_of_member (Members.mem_of_lookup read)).2 rfl reference rfl

end References
end Node

theorem mem_replacePairs {first second replacement c : Char} {text : List Char}
    (among : c ∈ replacePairs first second replacement text) : c = replacement ∨ c ∈ text := by
  induction text using replacePairs.induct first second with
  | case1 => exact .inr among
  | case2 d => exact .inr among
  | case3 d e rest pair ih =>
      rw [replacePairs, if_pos pair] at among
      rcases List.mem_cons.mp among with here | behind
      · exact .inl here
      · exact (ih behind).imp_right fun inside =>
          List.mem_cons_of_mem _ (List.mem_cons_of_mem _ inside)
  | case4 d e rest pair ih =>
      rw [replacePairs, if_neg pair] at among
      rcases List.mem_cons.mp among with here | behind
      · exact .inr (here ▸ List.mem_cons_self)
      · exact (ih behind).imp_right (List.mem_cons_of_mem _)

theorem replacePairs_of_not_mem {first second replacement : Char} {text : List Char}
    (absent : first ∉ text) : replacePairs first second replacement text = text := by
  induction text using replacePairs.induct first second with
  | case1 => rfl
  | case2 c => rfl
  | case3 c d rest pair => exact absurd (pair.1 ▸ List.mem_cons_self) absent
  | case4 c d rest pair ih =>
      rw [replacePairs, if_neg pair, ih fun among => absent (List.mem_cons_of_mem _ among)]

theorem isAscii_of_mem_referenceNames? {reference token : String} {names : List String}
    (ascii : isAscii reference = true) (split : Address.referenceNames? reference = some names)
    (among : token ∈ names) : isAscii token = true := by
  rw [isAscii, List.all_eq_true] at ascii ⊢
  unfold Address.referenceNames? at split
  split at split
  · rename_i rest text
    cases split
    obtain ⟨part, cut, rfl⟩ := List.mem_map.mp among
    intro c inside
    rw [String.toList_ofList, Address.unescapeToken] at inside
    rcases mem_replacePairs inside with rfl | inside
    · decide
    · rcases mem_replacePairs inside with rfl | inside
      · decide
      · refine ascii c ?_
        rw [text]
        exact List.mem_cons_of_mem _ (List.mem_cons_of_mem _ (Path.mem_splitOn cut inside).1)
  · cases split

/-- A position in ASCII digits is read, unless it has too many of them. -/
theorem isTooLong_of_unread {token : String} (ascii : isAscii token = true)
    (index : isIndexToken token = true) (unread : Integer.ofFewDigits? token.toList = none) :
    Integer.isTooLong token.toList = true := by
  by_contra few
  rw [Integer.ofFewDigits?, if_neg few] at unread
  rw [isAscii, List.all_eq_true] at ascii
  rw [isIndexToken, Bool.and_eq_true, List.all_eq_true] at index
  have digits : ∀ c ∈ token.toList, c.isDigit = true := by
    intro c inside
    have plain := Letter.of_ascii (fun c => !Letter.isDigit c || c.isDigit) (by decide +kernel)
      (of_decide_eq_true (ascii c inside))
    simpa [index.2 c inside] using plain
  rw [ofDigits?_eq digits] at unread
  cases unread

theorem isOverlong_of_unread {reference token : String} {names : List String}
    (ascii : isAscii reference = true) (split : Address.referenceNames? reference = some names)
    (among : token ∈ names) (index : isIndexToken token = true)
    (unread : Integer.ofFewDigits? token.toList = none) : isOverlong reference = true := by
  have long := isTooLong_of_unread (isAscii_of_mem_referenceNames? ascii split among) index unread
  rw [isOverlong, split, Option.any_some, List.any_eq_true]
  exact ⟨token, among, by rw [index, long]; rfl⟩

end ApiReview
