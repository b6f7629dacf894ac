import ApiReview.Files.SettingsFile
import ApiReview.Proofs.Node.Members
import ApiReview.Proofs.Node.Renumbering

/-! How loading a file fails without a report of its own. A file is read, then its
text as a document, and the document is made regular or checked; what escapes is what
none of these steps turns into a report, and each cause of it has a name here. -/

set_option autoImplicit false

namespace ApiReview

/-! ## Reading -/

/-- The document that the text of a file writes. -/
def FileTree.Holds (tree : FileTree) (file : FileName) (document : Graph) : Prop :=
  ∃ content, tree.read file = .ok content ∧ Yaml.read content = .ok document

/-- What keeps the document of a file from being read, apart from what loading reports. -/
inductive FileTree.Unread (tree : FileTree) (file : FileName) : Fault → Prop where
  /-- The bytes of the file are no text. -/
  | undecodable : tree.entry file = .ok .undecodable → Unread tree file .undecodable
  /-- No file can have the name. -/
  | impossible : file.isPossible = false → Unread tree file .badValue
  /-- A scalar is well formed and has no value. -/
  | scalar {content : String} {fault : Fault} :
      tree.read file = .ok content → Yaml.read content = .error (.fault fault) →
      Unread tree file fault

section Reading

variable {tree : FileTree} {file name : FileName} {fault : Fault} {Refusal : Type}
  {refusal other : Refusal}

namespace FileTree

theorem follow_eq_error {parts : List String} (lost : tree.follow name parts = .error fault) :
    fault = .notDirectory ∨ fault = .noSuchFile := by
  induction parts generalizing name with
  | nil => cases lost
  | cons part rest ih =>
      unfold follow at lost
      split at lost
      · exact ih lost
      · split at lost
        · cases lost
          exact .inl rfl
        · cases lost
          exact .inr rfl

/-- A possible name is looked up or not found. -/
theorem entry_eq_error (possible : file.isPossible = true) (lost : tree.entry file = .error fault) :
    fault = .notDirectory ∨ fault = .noSuchFile := by
  unfold entry at lost
  simp only [possible, Bool.not_true, Bool.false_eq_true, if_false] at lost
  rcases bind_eq_error_iff.mp lost with lost | ⟨found, -, lost⟩
  · exact follow_eq_error lost
  · split at lost
    · cases lost
    · split at lost
      · cases lost
      · cases lost
        exact .inr rfl

theorem entry_of_impossible (impossible : file.isPossible = false) :
    tree.entry file = .error .badValue := by
  unfold entry
  simp only [impossible, Bool.not_false, if_true]

theorem read_eq_undecodable_iff :
    tree.read file = .error .undecodable ↔ tree.entry file = .ok .undecodable := by
  unfold read
  rw [bind_eq_error_iff]
  constructor
  · rintro (lost | ⟨entry, found, lost⟩)
    · cases possible : file.isPossible with
      | true => rcases entry_eq_error possible lost with other | other <;> cases other
      | false =>
          rw [entry_of_impossible possible] at lost
          cases lost
    · cases entry with
      | undecodable => exact found
      | text content => cases lost
      | directory => cases lost
  · intro found
    exact .inr ⟨_, found, rfl⟩

theorem read_eq_badValue_iff :
    tree.read file = .error .badValue ↔ file.isPossible = false := by
  unfold read
  rw [bind_eq_error_iff]
  constructor
  · rintro (lost | ⟨entry, found, lost⟩)
    · cases possible : file.isPossible with
      | true => rcases entry_eq_error possible lost with other | other <;> cases other
      | false => rfl
    · cases entry <;> cases lost
  · intro impossible
    exact .inl (entry_of_impossible impossible)

theorem readFor_eq_fault_iff :
    tree.readFor file refusal = .error (.fault fault) ↔
      tree.read file = .error fault ∧ (fault = .undecodable ∨ fault = .badValue) := by
  unfold readFor
  cases read : tree.read file with
  | ok content => simp
  | error cause =>
      cases cause
      all_goals simp
      all_goals rintro rfl
      all_goals simp

theorem readFor_eq_ok_iff {content : String} :
    tree.readFor file refusal = .ok content ↔ tree.read file = .ok content := by
  unfold readFor
  cases tree.read file with
  | ok found => simp
  | error cause => cases cause <;> simp

end FileTree

theorem Yaml.readFor_eq_fault_iff {text : String} :
    Yaml.readFor text refusal = .error (.fault fault) ↔
      Yaml.read text = .error (.fault fault) := by
  unfold Yaml.readFor
  cases Yaml.read text with
  | ok document => simp
  | error failure => cases failure <;> simp

theorem Yaml.readFor_eq_ok_iff {text : String} {document : Graph} :
    Yaml.readFor text refusal = .ok document ↔ Yaml.read text = .ok document := by
  unfold Yaml.readFor
  cases Yaml.read text with
  | ok found => simp
  | error failure => cases failure <;> simp

namespace FileTree

/-- The document of a file, for a loader with its reports of what cannot be read. -/
def document (tree : FileTree) (file : FileName) (unreadable malformed : Refusal) :
    Except (LoadError Refusal) Graph := do
  let content ← tree.readFor file unreadable
  Yaml.readFor content malformed

theorem document_eq_fault_iff :
    tree.document file refusal other = .error (.fault fault) ↔ tree.Unread file fault := by
  unfold document
  rw [bind_eq_error_iff]
  simp only [readFor_eq_fault_iff, readFor_eq_ok_iff, Yaml.readFor_eq_fault_iff]
  constructor
  · rintro (⟨lost, rfl | rfl⟩ | ⟨content, found, valueless⟩)
    · exact .undecodable (read_eq_undecodable_iff.mp lost)
    · exact .impossible (read_eq_badValue_iff.mp lost)
    · exact .scalar found valueless
  · intro unread
    cases unread with
    | undecodable found => exact .inl ⟨read_eq_undecodable_iff.mpr found, .inl rfl⟩
    | impossible name => exact .inl ⟨read_eq_badValue_iff.mpr name, .inr rfl⟩
    | scalar found valueless => exact .inr ⟨_, found, valueless⟩

theorem document_eq_ok_iff {document : Graph} :
    tree.document file refusal other = .ok document ↔ tree.Holds file document := by
  unfold FileTree.document Holds
  constructor
  · intro success
    obtain ⟨content, found, read⟩ := bind_ok success
    exact ⟨content, readFor_eq_ok_iff.mp found, Yaml.readFor_eq_ok_iff.mp read⟩
  · rintro ⟨content, found, read⟩
    rw [readFor_eq_ok_iff.mpr found]
    exact Yaml.readFor_eq_ok_iff.mpr read

theorem not_holds_of_unread {document : Graph} (unread : tree.Unread file fault) :
    ¬ tree.Holds file document := by
  intro held
  have failed : tree.document file () () = .error (.fault fault) := document_eq_fault_iff.mpr unread
  rw [document_eq_ok_iff.mpr held] at failed
  cases failed

theorem Holds.unique {first second : Graph} (held : tree.Holds file first)
    (again : tree.Holds file second) : first = second := by
  have read : tree.document file () () = .ok first := document_eq_ok_iff.mpr held
  rw [document_eq_ok_iff.mpr again] at read
  cases read
  rfl

/-- What follows the reading of a document fails where the document is unread, or by itself. -/
theorem document_bind_eq_fault_iff {Result : Type}
    {next : Graph → Except (LoadError Refusal) Result} :
    (tree.document file refusal other >>= next) = .error (.fault fault) ↔
      tree.Unread file fault ∨
        ∃ document, tree.Holds file document ∧ next document = .error (.fault fault) := by
  simp only [bind_eq_error_iff, document_eq_fault_iff, document_eq_ok_iff]

end FileTree

end Reading

/-! ## Walks through the values of an object -/

def Shape.members? {Child : Type} : Shape Child → Option (List (Key × Child))
  | .object members => some members
  | _ => none

theorem Shape.members?_eq_some_iff {Child : Type} {shape : Shape Child}
    {members : List (Key × Child)} : shape.members? = some members ↔ shape = .object members := by
  cases shape <;> simp [Shape.members?]

namespace SpecFile

/-- A walk with a step for each value of an object comes to a value, in the document that the steps
before have left. -/
def ComesTo (step : Graph → Nat → Except Fault Graph) (document : Graph) (number : Nat)
    (reached : Graph) (value : Nat) : Prop :=
  ∃ members, document.cell number = .object members ∧ ∃ position < members.length,
    (List.range position).foldlM (stepAt step number) document = .ok reached ∧
      valueAt? reached number position = some value

section Walks

variable {step : Graph → Nat → Except Fault Graph} {document next reached : Graph}
  {number value : Nat} {fault : Fault} {invariant : Graph → Prop}

/-- Only an object is walked through. -/
theorem not_comesTo_of_other (other : ∀ members, document.cell number ≠ .object members) :
    ¬ ComesTo step document number reached value := by
  rintro ⟨members, object, -⟩
  exact other members object

theorem stepThrough_eq_error_iff :
    stepThrough step document number = .error fault ↔
      ∃ reached value, ComesTo step document number reached value ∧
        step reached value = .error fault := by
  have at_position : ∀ reached position, stepAt step number reached position = .error fault ↔
      ∃ value, valueAt? reached number position = some value ∧
        step reached value = .error fault := by
    intro reached position
    unfold stepAt
    cases valueAt? reached number position <;> simp
  unfold stepThrough ComesTo
  cases document.cell number with
  | scalar value => simp
  | list items => simp
  | object members =>
      simp only [foldlM_range_eq_error_iff, at_position]
      constructor
      · rintro ⟨position, within, reached, ran, value, found, failed⟩
        exact ⟨reached, value, ⟨members, rfl, position, within, ran, found⟩, failed⟩
      · rintro ⟨reached, value, ⟨others, same, position, within, ran, found⟩, failed⟩
        cases same
        exact ⟨position, within, reached, ran, value, found, failed⟩

variable
  (kept : ∀ {document number next}, invariant document → step document number = .ok next →
    invariant next)

include kept

theorem stepAt_preserves {position : Nat} {document next : Graph} (held : invariant document)
    (stepped : stepAt step number document position = .ok next) : invariant next := by
  unfold stepAt at stepped
  split at stepped
  · exact kept held stepped
  · cases stepped
    exact held

theorem stepThrough_preserves (held : invariant document)
    (walked : stepThrough step document number = .ok next) : invariant next := by
  unfold stepThrough at walked
  split at walked
  · exact foldlM_preserves invariant (stepAt_preserves kept) held walked
  · cases walked
    exact held

theorem ComesTo.preserves (held : invariant document)
    (comes : ComesTo step document number reached value) : invariant reached := by
  obtain ⟨members, -, position, -, ran, -⟩ := comes
  exact foldlM_preserves invariant (stepAt_preserves kept) held ran

end Walks

/-! ## Response codes -/

section Codes

variable {document next reached : Graph} {number : Nat} {fault : Fault}
  {responses texts : List (Key × Nat)}

/-- A key is a number with too many digits to be written. -/
def HasUnwritableKey (members : List (Key × Nat)) : Prop :=
  ∃ code, .int code ∈ Members.keys members ∧ Integer.isUnwritable code = true

theorem codeText_eq_error_iff {code : Key} :
    codeText code = .error fault ↔
      fault = .badValue ∧ ∃ number, code = .int number ∧ Integer.isUnwritable number = true := by
  unfold codeText
  constructor
  · intro failed
    split at failed
    · split at failed
      · rename_i number many
        cases failed
        exact ⟨rfl, number, rfl, many⟩
      · cases failed
    · cases failed
  · rintro ⟨rfl, number, rfl, many⟩
    exact if_pos many

theorem withTextCodes_eq_error_iff :
    withTextCodes responses = .error fault ↔ fault = .badValue ∧ HasUnwritableKey responses := by
  unfold withTextCodes HasUnwritableKey
  generalize ([] : List (Key × Nat)) = done
  induction responses generalizing done with
  | nil => simp [pure, Except.pure]
  | cons member rest ih =>
      obtain ⟨code, response⟩ := member
      rw [List.foldlM_cons, bind_assoc]
      cases written : codeText code with
      | error other =>
          obtain ⟨rfl, number, rfl, many⟩ := codeText_eq_error_iff.mp written
          constructor
          · intro failed
            cases failed
            exact ⟨rfl, number, List.mem_cons_self, many⟩
          · rintro ⟨rfl, -⟩
            rfl
      | ok text =>
          have writable : ∀ number, code = .int number → ¬ Integer.isUnwritable number = true := by
            intro number same many
            have failed := codeText_eq_error_iff.mpr ⟨rfl, number, same, many⟩
            rw [written] at failed
            cases failed
          refine (ih (Members.put (.str text) response done)).trans ?_
          refine and_congr_right fun _ => exists_congr fun number => and_congr_left fun many => ?_
          rw [Members.keys_cons, List.mem_cons]
          exact (or_iff_right fun same => writable number same.symm many).symm

/-- An operation has a response code that is a number with too many digits to be written. -/
def HasUnwritableCode (document : Graph) (number : Nat) : Prop :=
  ∃ operation place responses, document.cell number = .object operation ∧
    Members.get? operation "responses" = some place ∧ document.cell place = .object responses ∧
    HasUnwritableKey responses

theorem normalizeOperation_eq_error_iff :
    normalizeOperation document number = .error fault ↔
      fault = .badValue ∧ HasUnwritableCode document number := by
  unfold normalizeOperation
  constructor
  · intro failed
    split at failed
    · rename_i operation shape
      split at failed
      · rename_i responses found
        obtain ⟨place, given, held⟩ := Option.map_eq_some_iff.mp found
        rcases bind_eq_error_iff.mp failed with failed | ⟨texts, -, failed⟩
        · obtain ⟨rfl, many⟩ := withTextCodes_eq_error_iff.mp failed
          exact ⟨rfl, operation, place, responses, shape, given, held, many⟩
        · cases failed
      · cases failed
    · cases failed
  · rintro ⟨rfl, operation, place, responses, shape, given, held, many⟩
    have failed := withTextCodes_eq_error_iff.mpr ⟨rfl, many⟩
    simp only [shape, given, held, Option.map_some, failed]
    rfl

/-- What becomes of an operation: it stays, or gets an object of responses under texts. -/
theorem normalizeOperation_ok (done : normalizeOperation document number = .ok next) :
    next = document ∨ ∃ operation responses texts, document.cell number = .object operation ∧
      withTextCodes responses = .ok texts ∧
      next = (document.push (.object texts)).1.set number
        (.object (Members.put (.str "responses") document.cells.size operation)) := by
  unfold normalizeOperation at done
  split at done
  · rename_i operation shape
    split at done
    · rename_i responses found
      obtain ⟨texts, written, done⟩ := bind_ok done
      cases done
      exact .inr ⟨operation, responses, texts, shape, written, rfl⟩
    · cases done
      exact .inl rfl
  · cases done
    exact .inl rfl

theorem not_hasUnwritableKey_put {members : List (Key × Nat)} {name : String} {value : Nat}
    (writable : ¬ HasUnwritableKey members) :
    ¬ HasUnwritableKey (Members.put (.str name) value members) := by
  rintro ⟨code, among, many⟩
  rcases Members.mem_keys_put.mp among with same | known
  · cases same
  · exact writable ⟨code, known, many⟩

theorem not_hasUnwritableKey_of_withTextCodes (done : withTextCodes responses = .ok texts) :
    ¬ HasUnwritableKey texts := by
  have start : ¬ HasUnwritableKey ([] : List (Key × Nat)) := fun ⟨_, among, _⟩ => nomatch among
  refine foldlM_preserves (fun texts => ¬ HasUnwritableKey texts) ?_ start done
  intro reached member later writable stepped
  obtain ⟨text, -, stepped⟩ := bind_ok stepped
  cases stepped
  exact not_hasUnwritableKey_put writable

/-! ## What a walk keeps -/

/-- The root of a document is an object that says which version it keeps. -/
def IsVersioned (document : Graph) : Prop :=
  ∃ members, document.cell document.root = .object members ∧ hasVersion members = true

/-- No key in a document is a number with too many digits to be written. -/
def WritesItsKeys (document : Graph) : Prop :=
  ∀ number members, document.cell number = .object members → ¬ HasUnwritableKey members

theorem lt_of_cell_eq_object {members : List (Key × Nat)}
    (held : document.cell number = .object members) : number < document.cells.size := by
  by_contra outside
  simp [Graph.cell, Array.getD_eq_getD_getElem?, outside] at held

/-- The cells of a document in which an operation has got responses under texts. -/
theorem cell_of_normalized {operation : List (Key × Nat)} {renamed cell : Shape Nat}
    (held : document.cell number = .object operation) (here : Nat) :
    ((document.push renamed).1.set number cell).cell here =
      if here = number then cell
      else if here = document.cells.size then renamed
      else document.cell here := by
  have within := lt_of_cell_eq_object held
  by_cases self : here = number
  · subst self
    rw [if_pos rfl]
    exact Graph.cell_set_self (by simpa [Graph.push] using Nat.lt_succ_of_lt within)
  · rw [if_neg self, Graph.cell_set_ne self]
    by_cases last : here = document.cells.size
    · rw [if_pos last, last, Graph.cell_push_self]
    · simp [last, Graph.cell, Graph.push, Array.getD_eq_getD_getElem?, Array.getElem?_push]

theorem hasVersion_put {members : List (Key × Nat)} {key : Key} {value : Nat}
    (version : hasVersion members = true) : hasVersion (Members.put key value members) = true := by
  simp only [hasVersion, Bool.or_eq_true, Members.has_iff, Members.mem_keys_put] at version ⊢
  exact version.imp .inr .inr

theorem isVersioned_normalizeOperation (held : IsVersioned document)
    (done : normalizeOperation document number = .ok next) : IsVersioned next := by
  rcases normalizeOperation_ok done with rfl | ⟨operation, responses, texts, shape, -, rfl⟩
  · exact held
  · obtain ⟨members, root, version⟩ := held
    have inside := Nat.ne_of_lt (lt_of_cell_eq_object root)
    change ∃ members, Graph.cell _ document.root = .object members ∧ hasVersion members = true
    rw [cell_of_normalized shape]
    -- the root itself may be an operation, where it stands in its own paths
    by_cases self : document.root = number
    · rw [self, shape] at root
      cases root
      rw [if_pos self]
      exact ⟨_, rfl, hasVersion_put version⟩
    · rw [if_neg self, if_neg inside]
      exact ⟨members, root, version⟩

theorem writesItsKeys_normalizeOperation (held : WritesItsKeys document)
    (done : normalizeOperation document number = .ok next) : WritesItsKeys next := by
  rcases normalizeOperation_ok done with rfl | ⟨operation, responses, texts, shape, written, rfl⟩
  · exact held
  · intro here members found
    rw [cell_of_normalized shape] at found
    split at found
    · cases found
      exact not_hasUnwritableKey_put (held number operation shape)
    · split at found
      · cases found
        exact not_hasUnwritableKey_of_withTextCodes written
      · exact held here members found

theorem isVersioned_normalize {members : List (Key × Nat)} (held : IsVersioned document)
    (done : normalize document members = .ok next) : IsVersioned next := by
  unfold normalize at done
  split at done
  · split at done
    · exact stepThrough_preserves
        (fun held => stepThrough_preserves isVersioned_normalizeOperation held) held done
    · split at done
      · cases done
      · cases done
        exact held
    · split at done
      · cases done
        exact held
      · cases done
  · cases done
    exact held

end Codes

/-! ## Loading -/

section Loading

variable {tree : FileTree} {file : FileName} {fault : Fault} {document : Graph}

/-- A file holds an interface document in which something stands for the paths. -/
def HoldsPaths (tree : FileTree) (file : FileName) (document : Graph) (paths : Nat) : Prop :=
  tree.Holds file document ∧ ∃ members, document.cell document.root = .object members ∧
    hasVersion members = true ∧ Members.get? members "paths" = some paths

/-- A part is filled, and not with members. -/
def lacksMembers : Shape Nat → Bool
  | .scalar value => value.isFilled
  | .list items => !items.isEmpty
  | .object _ => false

/-- What loading an interface document comes to that it has no report for. -/
inductive Escapes (tree : FileTree) (file : FileName) : Fault → Prop where
  | unread {fault : Fault} : tree.Unread file fault → Escapes tree file fault
  /-- Something else than an object stands for the paths. -/
  | paths {document : Graph} {paths : Nat} :
      HoldsPaths tree file document paths → lacksMembers (document.cell paths) = true →
      Escapes tree file .notAnObject
  /-- The walk through the path items and their operations comes to a response code that is a number
  with too many digits. -/
  | code {document atItem atOperation : Graph} {paths item operation : Nat} :
      HoldsPaths tree file document paths →
      ComesTo normalizePathItem document paths atItem item →
      ComesTo normalizeOperation atItem item atOperation operation →
      HasUnwritableCode atOperation operation → Escapes tree file .badValue

theorem normalize_eq_error_iff {members : List (Key × Nat)} :
    normalize document members = .error fault ↔
      ∃ paths, Members.get? members "paths" = some paths ∧
        (fault = .notAnObject ∧ lacksMembers (document.cell paths) = true ∨
          fault = .badValue ∧ ∃ atItem item atOperation operation,
            ComesTo normalizePathItem document paths atItem item ∧
            ComesTo normalizeOperation atItem item atOperation operation ∧
            HasUnwritableCode atOperation operation) := by
  unfold normalize
  cases Members.get? members "paths" with
  | none => simp
  | some paths =>
      simp only [Option.some.injEq, exists_eq_left']
      cases shape : document.cell paths with
      | object items =>
          simp only [normalizePathItem, stepThrough_eq_error_iff,
            normalizeOperation_eq_error_iff, lacksMembers]
          grind
      | scalar value =>
          have empty (atItem : Graph) (item : Nat) :
              ¬ ComesTo normalizePathItem document paths atItem item :=
            not_comesTo_of_other (by simp [shape])
          cases filled : value.isFilled <;> simp [lacksMembers, empty, filled, eq_comm]
      | list items =>
          have empty (atItem : Graph) (item : Nat) :
              ¬ ComesTo normalizePathItem document paths atItem item :=
            not_comesTo_of_other (by simp [shape])
          cases items <;> simp [lacksMembers, empty, eq_comm]

def ofDocument (file : FileName) (document : Graph) : Except (LoadError SpecFileError) Graph :=
  match document.cell document.root with
  | .object members =>
    if hasVersion members then (normalize document members).mapError .fault
    else .error (.refused (.noVersion file))
  | _ => .error (.refused (.noObject file))

theorem load_eq : load tree file =
    tree.document file (.unreadable file) (.malformed file) >>= ofDocument file :=
  (bind_assoc _ _ _).symm

theorem ofDocument_eq_fault_iff :
    ofDocument file document = .error (.fault fault) ↔
      ∃ members, document.cell document.root = .object members ∧ hasVersion members = true ∧
        normalize document members = .error fault := by
  unfold ofDocument
  constructor
  · intro failed
    split at failed
    · rename_i members root
      split at failed
      · rename_i version
        obtain ⟨cause, failed, same⟩ := mapError_eq_error_iff.mp failed
        cases same
        exact ⟨members, root, version, failed⟩
      · cases failed
    · cases failed
  · rintro ⟨members, root, version, failed⟩
    simp only [root, version, if_true]
    exact mapError_eq_error_iff.mpr ⟨fault, failed, rfl⟩

theorem load_eq_fault_iff :
    load tree file = .error (.fault fault) ↔ Escapes tree file fault := by
  rw [load_eq, FileTree.document_bind_eq_fault_iff]
  constructor
  · rintro (unread | ⟨document, read, failed⟩)
    · exact .unread unread
    · obtain ⟨members, root, version, failed⟩ := ofDocument_eq_fault_iff.mp failed
      obtain ⟨paths, given, ⟨rfl, lacking⟩ | ⟨rfl, _, _, _, _, toItem, toOperation, many⟩⟩ :=
        normalize_eq_error_iff.mp failed
      · exact .paths ⟨read, members, root, version, given⟩ lacking
      · exact .code ⟨read, members, root, version, given⟩ toItem toOperation many
  · intro escapes
    cases escapes with
    | unread unread => exact .inl unread
    | paths held lacking =>
        obtain ⟨read, members, root, version, given⟩ := held
        have failed := normalize_eq_error_iff.mpr ⟨_, given, .inl ⟨rfl, lacking⟩⟩
        exact .inr ⟨_, read, ofDocument_eq_fault_iff.mpr ⟨members, root, version, failed⟩⟩
    | code held toItem toOperation many =>
        obtain ⟨read, members, root, version, given⟩ := held
        have failed := normalize_eq_error_iff.mpr
          ⟨_, given, .inr ⟨rfl, _, _, _, _, toItem, toOperation, many⟩⟩
        exact .inr ⟨_, read, ofDocument_eq_fault_iff.mpr ⟨members, root, version, failed⟩⟩

theorem isVersioned_of_load (loaded : load tree file = .ok document) : IsVersioned document := by
  rw [load_eq] at loaded
  obtain ⟨start, -, loaded⟩ := bind_ok loaded
  unfold ofDocument at loaded
  split at loaded
  · rename_i members root
    split at loaded
    · rename_i version
      exact isVersioned_normalize ⟨members, root, version⟩ (mapError_ok loaded)
    · cases loaded
  · cases loaded

/-- A document whose keys can all be written escapes only where its paths lack members. -/
theorem escapes_iff_of_writable (read : tree.Holds file document)
    (writable : WritesItsKeys document) :
    Escapes tree file fault ↔ fault = .notAnObject ∧
      ∃ paths, HoldsPaths tree file document paths ∧
        lacksMembers (document.cell paths) = true := by
  constructor
  · intro escapes
    cases escapes with
    | unread unread => exact absurd read (FileTree.not_holds_of_unread unread)
    | paths held lacking =>
        obtain rfl := held.1.unique read
        exact ⟨rfl, _, held, lacking⟩
    | code held toItem toOperation many =>
        obtain rfl := held.1.unique read
        have atItem := ComesTo.preserves
          (fun held => stepThrough_preserves writesItsKeys_normalizeOperation held) writable toItem
        have atOperation := ComesTo.preserves writesItsKeys_normalizeOperation atItem toOperation
        obtain ⟨operation, place, responses, -, -, found, unwritable⟩ := many
        exact absurd unwritable (atOperation place responses found)
  · rintro ⟨rfl, paths, held, lacking⟩
    exact .paths held lacking

end Loading

end SpecFile

namespace SettingsFile

/-- What loading options comes to that it has no report for. -/
inductive Escapes (tree : FileTree) (file : FileName) : Fault → Prop where
  | unread {fault : Fault} : tree.Unread file fault → Escapes tree file fault
  /-- An option has a name that is no text. -/
  | unnamed {document : Graph} {options : Members} :
      tree.Holds file document → document.toNode.orEmpty = .object options →
      (∃ key ∈ Members.keys options, isName key = false) → Escapes tree file .wrongKind

/-- Whether all options have texts for their names. -/
def areNamed (options : Members) : Bool := options.all fun (key, _) => isName key

def ofDocument (file : FileName) (document : Graph) :
    Except (LoadError SettingsFileError) Settings :=
  match document.toNode.orEmpty with
  | .object options =>
    if areNamed options then
      match Checker.settings (.object options) with
      | .valid settings => .ok settings
      | .invalid problems => .error (.refused (.invalid file problems))
    else .error (.fault .wrongKind)
  | _ => .error (.refused (.noObject file))

theorem load_eq (tree : FileTree) (file : FileName) : load tree file =
    tree.document file (.unreadable file) (.unreadable file) >>= ofDocument file :=
  (bind_assoc _ _ _).symm

theorem areNamed_eq_false_iff {options : Members} :
    areNamed options = false ↔ ∃ key ∈ Members.keys options, isName key = false := by
  simp [areNamed, Members.keys]

theorem load_eq_fault_iff {tree : FileTree} {file : FileName} {fault : Fault} :
    load tree file = .error (.fault fault) ↔ Escapes tree file fault := by
  rw [load_eq, FileTree.document_bind_eq_fault_iff]
  unfold ofDocument
  constructor
  · rintro (unread | ⟨document, read, failed⟩)
    · exact .unread unread
    · split at failed
      · rename_i options object
        split at failed
        · split at failed <;> cases failed
        · rename_i unnamed
          cases failed
          exact .unnamed read object (areNamed_eq_false_iff.mp (Bool.eq_false_iff.mpr unnamed))
      · cases failed
  · intro escapes
    cases escapes with
    | unread unread => exact .inl unread
    | unnamed read object other =>
        refine .inr ⟨_, read, ?_⟩
        simp only [object, areNamed_eq_false_iff.mpr other]
        rfl

end SettingsFile

/-- Loading ends with a value or a report where none of the causes is present that escape it. -/
theorem reported_iff {Value Refusal : Type} {loaded : Except (LoadError Refusal) Value}
    {escapes : Fault → Prop} (exactly : ∀ fault, loaded = .error (.fault fault) ↔ escapes fault) :
    ((∃ value, loaded = .ok value) ∨ ∃ refusal, loaded = .error (.refused refusal)) ↔
      ∀ fault, ¬ escapes fault := by
  simp only [← exactly]
  cases loaded with
  | ok value => simp
  | error failure => cases failure <;> simp

/-- Loading an interface document gives an object that says which version it keeps, or a report, if
and only if the file has none of the causes that escape; loading options gives options, or a report,
if and only if it has none of theirs. A cause that escapes shows as its own fault. Of an interface
document whose keys can all be written, only paths that lack members escape. -/
theorem load_failures_reported_iff (tree : FileTree) (file : FileName) :
    ((∃ document, SpecFile.load tree file = .ok document ∧ SpecFile.IsVersioned document) ∨
        (∃ refusal, SpecFile.load tree file = .error (.refused refusal)) ↔
      ∀ fault, ¬ SpecFile.Escapes tree file fault) ∧
    (∀ fault, SpecFile.load tree file = .error (.fault fault) ↔
      SpecFile.Escapes tree file fault) ∧
    (∀ document fault, tree.Holds file document → SpecFile.WritesItsKeys document →
      (SpecFile.Escapes tree file fault ↔ fault = .notAnObject ∧ ∃ paths,
        SpecFile.HoldsPaths tree file document paths ∧
        SpecFile.lacksMembers (document.cell paths) = true)) ∧
    ((∃ settings, SettingsFile.load tree file = .ok settings) ∨
        (∃ refusal, SettingsFile.load tree file = .error (.refused refusal)) ↔
      ∀ fault, ¬ SettingsFile.Escapes tree file fault) ∧
    ∀ fault, SettingsFile.load tree file = .error (.fault fault) ↔
      SettingsFile.Escapes tree file fault := by
  have spec (fault : Fault) := @SpecFile.load_eq_fault_iff tree file fault
  have settings (fault : Fault) := @SettingsFile.load_eq_fault_iff tree file fault
  refine ⟨?_, spec, ?_, reported_iff settings, settings⟩
  · rw [← reported_iff spec]
    refine or_congr_left (exists_congr fun document => ?_)
    exact and_iff_left_of_imp SpecFile.isVersioned_of_load
  · intro document fault read writable
    exact SpecFile.escapes_iff_of_writable read writable

/-- A file whose bytes are no text, an interface document with a list for its paths, and options of
which one has a number for its name. -/
def awkwardFiles : FileTree where
  entries :=
    [(.ofText "raw", .undecodable), (.ofText "listed", .text "openapi: 3.0.0\npaths:\n- /users\n"),
     (.ofText "numbered", .text "1: 2\n")]

theorem load_failures_reported_iff_awkward :
    SpecFile.load awkwardFiles (.ofText "raw") = .error (.fault .undecodable) ∧
    SpecFile.load awkwardFiles (.ofText "listed") = .error (.fault .notAnObject) ∧
    SettingsFile.load awkwardFiles (.ofText "raw") = .error (.fault .undecodable) ∧
    SettingsFile.load awkwardFiles (.ofText "numbered") = .error (.fault .wrongKind) := by
  have raw : awkwardFiles.entry (.ofText "raw") = .ok .undecodable := by decide +kernel
  obtain ⟨-, spec, -, -, settings⟩ := load_failures_reported_iff awkwardFiles (.ofText "raw")
  refine ⟨(spec _).mpr (.unread (.undecodable raw)), ?_,
    (settings _).mpr (.unread (.undecodable raw)), ?_⟩
  · obtain ⟨-, spec, -⟩ := load_failures_reported_iff awkwardFiles (.ofText "listed")
    have written : (Yaml.read "openapi: 3.0.0\npaths:\n- /users\n").toOption.any (fun document =>
        (document.cell document.root).members?.any fun members => SpecFile.hasVersion members &&
          (Members.get? members "paths").any fun paths =>
            SpecFile.lacksMembers (document.cell paths)) = true := by
      decide +kernel
    obtain ⟨document, read, shaped⟩ := ok_of_any written
    obtain ⟨members, root, shaped⟩ := (Option.any_eq_true _ _).mp shaped
    obtain ⟨version, listed⟩ := Bool.and_eq_true_iff.mp shaped
    obtain ⟨paths, given, lacking⟩ := (Option.any_eq_true _ _).mp listed
    exact (spec _).mpr (.paths ⟨⟨_, by decide +kernel, read⟩, members,
      Shape.members?_eq_some_iff.mp root, version, given⟩ lacking)
  · obtain ⟨-, -, -, -, settings⟩ := load_failures_reported_iff awkwardFiles (.ofText "numbered")
    have written : (Yaml.read "1: 2\n").toOption.any (fun document =>
        document.toNode.orEmpty.shape.members?.any fun options =>
          !SettingsFile.areNamed options) = true := by
      decide +kernel
    obtain ⟨document, read, shaped⟩ := ok_of_any written
    obtain ⟨options, object, unnamed⟩ := (Option.any_eq_true _ _).mp shaped
    refine (settings _).mpr (.unnamed ⟨_, by decide +kernel, read⟩ ?_
      (SettingsFile.areNamed_eq_false_iff.mp (by simpa using unnamed)))
    rw [← Shape.toNode_shape document.toNode.orEmpty, Shape.members?_eq_some_iff.mp object]
    rfl

end ApiReview
