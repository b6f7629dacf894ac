import ApiReview.Patch.Edit
import ApiReview.Proofs.Patch.Place
import ApiReview.Proofs.Review.OrdinaryDocuments
import ApiReview.Proofs.Spec.ReferenceChains

/-! References that are written for a way. The tokens of a way are escaped so that a
slash or a tilde in a name does not count as a mark; read again they lead along the
way to the node at its end, whatever its names are. Only a position of too many digits
cannot be read, and nothing else stops a reference in ASCII. -/

set_option autoImplicit false

namespace ApiReview

open ApiReview.Address ApiReview.Text

variable {spec node target : Node} {way : List Part} {names : List String}
  {reference token : String} {part : Part} {text : List Char} {fault : Fault}

/-! ## Tokens -/

theorem replacePairs_cons_of_ne {first second replacement c : Char} (other : c ≠ first)
    (rest : List Char) :
    replacePairs first second replacement (c :: rest) =
      c :: replacePairs first second replacement rest := by
  cases rest with
  | nil => rfl
  | cons next rest =>
      have apart : ¬ (c = first ∧ next = second) := by
        intro pair
        exact other pair.1
      rw [replacePairs, if_neg apart]

/-- A character of a token in which the slashes are read back and the tildes are not. -/
def tildeChar (c : Char) : List Char := if c = '~' then ['~', '0'] else [c]

theorem replacePairs_slash (text : List Char) :
    replacePairs '~' '1' '/' (text.flatMap pointerChar) = text.flatMap tildeChar := by
  induction text with
  | nil => rfl
  | cons c text ih =>
      rw [List.flatMap_cons, List.flatMap_cons]
      by_cases tilde : c = '~'
      · subst tilde
        have zero : replacePairs '~' '1' '/' ('0' :: text.flatMap pointerChar) =
            '0' :: replacePairs '~' '1' '/' (text.flatMap pointerChar) :=
          replacePairs_cons_of_ne (by decide) _
        simp [pointerChar, tildeChar, replacePairs, zero, ih]
      · by_cases slash : c = '/'
        · subst slash
          simp [pointerChar, tildeChar, replacePairs, ih]
        · simp [pointerChar, tildeChar, tilde, slash, replacePairs_cons_of_ne tilde, ih]

theorem replacePairs_tilde (text : List Char) :
    replacePairs '~' '0' '~' (text.flatMap tildeChar) = text := by
  induction text with
  | nil => rfl
  | cons c text ih =>
      rw [List.flatMap_cons]
      by_cases tilde : c = '~'
      · subst tilde
        simp [tildeChar, replacePairs, ih]
      · simp [tildeChar, tilde, replacePairs_cons_of_ne tilde, ih]

theorem unescapeToken_pointerChar (text : List Char) :
    unescapeToken (text.flatMap pointerChar) = text := by
  rw [unescapeToken, replacePairs_slash, replacePairs_tilde]

theorem slash_not_mem_pointerChar (text : List Char) : '/' ∉ text.flatMap pointerChar := by
  intro among
  obtain ⟨c, -, inside⟩ := List.mem_flatMap.mp among
  unfold pointerChar at inside
  split at inside
  · simp at inside
  · split at inside
    · simp at inside
    · rename_i slash
      exact slash (List.mem_singleton.mp inside).symm

/-! ## Written references -/

def referenceTo (way : List Part) : String := "#" ++ pointerText way

theorem pointer_toList (first : Part) (rest : List Part) :
    (pointerText (first :: rest)).toList = '/' :: ['/'].intercalate
      ((first :: rest).map fun part => part.token.toList.flatMap pointerChar) := by
  induction rest generalizing first with
  | nil => simp [pointerText, List.intercalate]
  | cons second rest ih =>
      have later := ih second
      simp only [pointerText, String.toList_ofList, List.flatMap_cons, List.map_cons] at later ⊢
      rw [later]
      simp [List.intercalate]

/-- The names of a written reference are the tokens of its way. -/
theorem referenceNames?_referenceTo (some_part : way ≠ []) :
    referenceNames? (referenceTo way) = some (tokensOf way) := by
  obtain ⟨first, rest, rfl⟩ := List.exists_cons_of_ne_nil some_part
  have written : (referenceTo (first :: rest)).toList = '#' :: '/' :: ['/'].intercalate
      ((first :: rest).map fun part => part.token.toList.flatMap pointerChar) := by
    rw [referenceTo, String.toList_append, pointer_toList]
    rfl
  have whole : ∀ token ∈ (first :: rest).map fun part => part.token.toList.flatMap pointerChar,
      '/' ∉ token := by
    intro token listed
    obtain ⟨part, -, rfl⟩ := List.mem_map.mp listed
    exact slash_not_mem_pointerChar _
  have cut := List.splitOn_intercalate '/' whole (by simp)
  rw [referenceNames?, written]
  simp only [cut, List.map_map, Function.comp_def, unescapeToken_pointerChar, String.ofList_toList]
  rfl

/-! ## Ways of references -/

section Positions

variable {index : Nat}

theorem position_toList (index : Nat) :
    (Part.position (.ofNat index)).token.toList = Nat.toDigits 10 index :=
  Nat.toList_repr

theorem isIndexToken_position (index : Nat) :
    isIndexToken (Part.position (.ofNat index)).token = true := by
  have some_digit : (Part.position (.ofNat index)).token.isEmpty = false := by
    rw [String.isEmpty_eq_false_iff, ne_eq, ← String.toList_eq_nil_iff, position_toList]
    exact Nat.toDigits_ne_nil
  rw [isIndexToken, some_digit, position_toList, Bool.not_false, Bool.true_and, List.all_eq_true]
  intro c among
  have value := (decimalValue?_of_isDigit (isDigit_of_mem_toDigits among)).1
  rw [Letter.isDigit, Letter.isDecimal, value]
  rfl

/-- A position has too many digits to be read when it has too many to be written. -/
theorem isTooLong_position (index : Nat) :
    Integer.isTooLong (Part.position (.ofNat index)).token.toList =
      !(Part.position (.ofNat index)).isReadable := by
  rw [position_toList, isTooLong_toDigits, Part.isReadable, Bool.not_not]

theorem ofFewDigits?_position (readable : (Part.position (.ofNat index)).isReadable = true) :
    Integer.ofFewDigits? (Part.position (.ofNat index)).token.toList = some index := by
  have short := isTooLong_position index
  rw [readable, Bool.not_true] at short
  rw [Integer.ofFewDigits?, short, position_toList]
  exact ofDigits?_toDigits index

end Positions

theorem descends_tokensOf (readable : ∀ part ∈ way, part.isReadable = true)
    (reached : node.at? way = some target) : Descends (tokensOf way) node way target := by
  induction way generalizing node with
  | nil =>
      cases reached
      exact .here _
  | cons part way ih =>
      obtain ⟨child, stepped, reached⟩ := Option.bind_eq_some_iff.mp reached
      have behind := ih (fun other among => readable other (List.mem_cons_of_mem _ among)) reached
      rcases Node.takes_cases (Node.takes_of_part? stepped) with
        ⟨name, members, rfl, rfl⟩ | ⟨index, items, rfl, rfl, -⟩
      · exact .member stepped behind
      · exact .item (isIndexToken_position index)
          (ofFewDigits?_position (readable _ List.mem_cons_self)) stepped behind

/-- Names that lead to a list where the next one is a position of too many digits. -/
inductive Overruns : List String → Node → Prop
  | here {token : String} {names : List String} {items : List Node} :
      isIndexToken token = true → Integer.isTooLong token.toList = true →
      Overruns (token :: names) (.list items)
  | member {name : String} {names : List String} {members : Members} {child : Node} :
      Members.get? members name = some child → Overruns names child →
      Overruns (name :: names) (.object members)
  | item {name : String} {names : List String} {items : List Node} {index : Nat} {child : Node} :
      isIndexToken name = true → Integer.ofFewDigits? name.toList = some index →
      items[index]? = some child → Overruns names child → Overruns (name :: names) (.list items)

theorem Overruns.descend?_eq (overruns : Overruns names node) :
    descend? names node = .error .badValue := by
  induction overruns with
  | here token long => simp only [descend?, token, Integer.ofFewDigits?, long, if_true]
  | member read _ ih => simp only [descend?, read, ih]
  | item token digits read _ ih => simp only [descend?, token, digits, read, ih, if_true]

/-- Nothing but a position of too many digits stops names in ASCII. -/
theorem overruns_of_descend? (ascii : ∀ token ∈ names, isAscii token = true)
    (stopped : descend? names node = .error fault) : Overruns names node := by
  induction names generalizing node with
  | nil => cases stopped
  | cons name names ih =>
      have later := fun token among => ascii token (List.mem_cons_of_mem name among)
      cases node with
      | object members =>
          rw [descend?] at stopped
          split at stopped
          · rename_i child read
            exact .member read (ih later stopped)
          · cases stopped
      | list items =>
          rw [descend?] at stopped
          split at stopped
          · rename_i token
            split at stopped
            · rename_i index digits
              split at stopped
              · rename_i child read
                exact .item token digits read (ih later stopped)
              · cases stopped
            · rename_i unread
              exact .here token (isTooLong_of_unread (ascii name List.mem_cons_self) token unread)
          · cases stopped
      | _ => cases stopped

/-- A way with a position that cannot be written overruns a list, since the way exists. -/
theorem overruns_tokensOf (reached : node.at? way = some target)
    (unreadable : ∃ part ∈ way, part.isReadable = false) : Overruns (tokensOf way) node := by
  induction way generalizing node with
  | nil => simp at unreadable
  | cons part way ih =>
      obtain ⟨child, stepped, below⟩ := Option.bind_eq_some_iff.mp reached
      rcases Node.takes_cases (Node.takes_of_part? stepped) with
        ⟨name, members, rfl, rfl⟩ | ⟨index, items, rfl, rfl, -⟩
      · obtain ⟨other, among, wrong⟩ := unreadable
        rcases List.mem_cons.mp among with rfl | among
        · cases wrong
        · exact .member stepped (ih below ⟨other, among, wrong⟩)
      · cases readable : (Part.position (.ofNat index)).isReadable with
        | false =>
            refine .here (isIndexToken_position index) ?_
            rw [isTooLong_position, readable]
            rfl
        | true =>
            refine .item (isIndexToken_position index) (ofFewDigits?_position readable) stepped
              (ih below ?_)
            obtain ⟨other, among, wrong⟩ := unreadable
            rcases List.mem_cons.mp among with rfl | among
            · rw [readable] at wrong
              cases wrong
            · exact ⟨other, among, wrong⟩

/-! ## References -/

/-- Whether a reference leads to a list of the document and goes on by a position of too many
digits. -/
def Node.IsOverrunBy (spec : Node) (reference : String) : Prop :=
  ∃ names, referenceNames? reference = some names ∧ Overruns names spec

theorem follow?_eq_error_iff (ascii : isAscii reference = true) :
    follow? spec reference = .error fault ↔ fault = .badValue ∧ spec.IsOverrunBy reference := by
  unfold follow?
  constructor
  · intro stopped
    split at stopped
    · rename_i names read
      have overruns := overruns_of_descend?
        (fun token among => isAscii_of_mem_referenceNames? ascii read among) stopped
      rw [overruns.descend?_eq] at stopped
      cases stopped
      exact ⟨rfl, names, read, overruns⟩
    · cases stopped
  · intro overrun
    obtain ⟨rfl, names, read, overruns⟩ := overrun
    rw [read]
    exact overruns.descend?_eq

theorem follow?_eq_some_iff :
    follow? spec reference = .ok (some target) ↔
      ∃ names way, referenceNames? reference = some names ∧ Descends names spec way target := by
  unfold follow?
  constructor
  · intro reached
    split at reached
    · rename_i names read
      obtain ⟨way, descends⟩ := exists_descends reached
      exact ⟨names, way, read, descends⟩
    · cases reached
  · intro leads
    obtain ⟨names, way, read, descends⟩ := leads
    rw [read]
    exact descends.descend?_eq

/-- Every node is reached by the reference that is written for a way to it, if and only if all
positions on the way have few enough digits. A reference in ASCII leads to a node of the document or
nowhere; it fails if and only if it comes to a list with a position of too many digits. -/
theorem escaped_reference_reaches_iff (spec : Node) :
    (∀ way target, way ≠ [] → spec.at? way = some target →
      (follow? spec (referenceTo way) = .ok (some target) ↔
        ∀ part ∈ way, part.isReadable = true)) ∧
    ∀ reference, isAscii reference = true →
      (∀ target, follow? spec reference = .ok (some target) → ∃ way, spec.at? way = some target) ∧
      ∀ fault, follow? spec reference = .error fault ↔
        fault = .badValue ∧ spec.IsOverrunBy reference := by
  constructor
  · intro way target some_part reached
    have names := referenceNames?_referenceTo some_part
    constructor
    · intro followed part among
      cases readable : part.isReadable with
      | true => rfl
      | false =>
          have stopped := (overruns_tokensOf reached ⟨part, among, readable⟩).descend?_eq
          simp only [follow?, names, stopped] at followed
          cases followed
    · intro readable
      exact follow?_eq_some_iff.mpr ⟨_, way, names, descends_tokensOf readable reached⟩
  · intro reference ascii
    refine ⟨fun target followed => ?_, fun fault => follow?_eq_error_iff ascii⟩
    obtain ⟨names, way, -, descends⟩ := follow?_eq_some_iff.mp followed
    exact ⟨way, descends.at?_eq⟩

/-- A document with keys that hold the marks of references, one of digits and an empty one. -/
def markedKeys : Node :=
  .object [(.str "a/b", .object [(.str "~1", .list [.null, .object [(.str "", .object
    [(.str "0", .int 5)])]])]), (.str "ids", .list [.int 1])]

theorem isAscii_idsReference {position : String} (ascii : isAscii position = true) :
    isAscii ("#/ids/" ++ position) = true := by
  rw [isAscii, String.toList_append, List.all_append, Bool.and_eq_true]
  exact ⟨by decide, ascii⟩

theorem escaped_reference_reaches_iff_marked :
    follow? markedKeys "#/a~1b/~01/1//0" = .ok (some (.int 5)) ∧
      isAscii ("#/ids/" ++ ones 4301) = true ∧
      follow? markedKeys ("#/ids/" ++ ones 4301) = .error .badValue := by
  let way : List Part := [.name "a/b", .name "~1", .position 1, .name "", .name "0"]
  have written : referenceTo way = "#/a~1b/~01/1//0" := by decide +kernel
  have readable : ∀ part ∈ way, part.isReadable = true := by decide +kernel
  obtain ⟨digits, index, long⟩ := ones_overlong (show Integer.digitLimit < 4301 by decide)
  have ascii := isAscii_idsReference digits
  refine ⟨?_, ascii, ?_⟩
  · have reaches := (escaped_reference_reaches_iff markedKeys).1 way (.int 5) (by simp [way]) rfl
    rw [written] at reaches
    exact reaches.mpr readable
  · refine (((escaped_reference_reaches_iff markedKeys).2 _ ascii).2 .badValue).mpr ⟨rfl, ?_⟩
    exact ⟨_, referenceNames?_position index, .member rfl (.here index long)⟩

end ApiReview
