import Mathlib
import ApiReview.Node.Basic

/-! Laws of the members of an object. Setting, removing and renaming are told by
what reading a key gives afterwards and by what becomes of the list of keys;
no law looks into the values. -/

set_option autoImplicit false

namespace ApiReview.Members

variable {Value : Type} {members rest : List (Key × Value)} {key other first : Key}
  {value held : Value}

/-- The keys of members, in document order. -/
def keys (members : List (Key × Value)) : List Key := members.map (·.1)

@[simp] theorem keys_nil : keys ([] : List (Key × Value)) = [] := rfl

@[simp] theorem keys_cons : keys ((first, value) :: rest) = first :: keys rest := rfl

theorem mem_keys_of_mem (present : (key, value) ∈ members) : key ∈ keys members :=
  List.mem_map_of_mem present

theorem exists_mem_of_mem_keys (present : key ∈ keys members) : ∃ value, (key, value) ∈ members := by
  obtain ⟨⟨found, value⟩, among, rfl⟩ := List.mem_map.mp present
  exact ⟨value, among⟩

theorem lookup_cons_of_eq (same : first = key) :
    ((first, value) :: rest).lookup key = some value := by
  subst same
  exact List.lookup_cons_self

theorem lookup_cons_of_ne (different : first ≠ key) :
    ((first, value) :: rest).lookup key = rest.lookup key := by
  have test : (key == first) = false := beq_eq_false_iff_ne.mpr (Ne.symm different)
  simp only [List.lookup_cons, test]

/-! ## Reading -/

theorem lookup_eq_none_iff : members.lookup key = none ↔ key ∉ keys members := by
  induction members with
  | nil => simp
  | cons member rest ih =>
      obtain ⟨first, held⟩ := member
      by_cases same : first = key
      · simp [same]
      · simp [lookup_cons_of_ne same, ih, Ne.symm same]

theorem mem_of_lookup (found : members.lookup key = some value) : (key, value) ∈ members := by
  obtain ⟨before, after, rfl, _⟩ := List.lookup_eq_some_iff.mp found
  simp

/-- Where keys are distinct, reading finds each member. -/
theorem lookup_of_mem (distinct : (keys members).Nodup) (present : (key, value) ∈ members) :
    members.lookup key = some value := by
  induction members with
  | nil => cases present
  | cons member rest ih =>
      obtain ⟨first, held⟩ := member
      rw [keys_cons, List.nodup_cons] at distinct
      rcases List.mem_cons.mp present with here | present
      · cases here
        exact List.lookup_cons_self
      · have different : first ≠ key := by
          rintro rfl
          exact distinct.1 (mem_keys_of_mem present)
        rw [lookup_cons_of_ne different]
        exact ih distinct.2 present

/-! ## Setting -/

theorem put_cons_of_eq (same : first = key) :
    put key value ((first, held) :: rest) = (first, value) :: rest := by
  simp [put, same]

theorem put_cons_of_ne (different : first ≠ key) :
    put key value ((first, held) :: rest) = (first, held) :: put key value rest := by
  simp [put, different]

@[simp] theorem lookup_put_self : (put key value members).lookup key = some value := by
  induction members with
  | nil => exact List.lookup_cons_self
  | cons member rest ih =>
      obtain ⟨first, held⟩ := member
      by_cases same : first = key
      · rw [put_cons_of_eq same, lookup_cons_of_eq same]
      · rw [put_cons_of_ne same, lookup_cons_of_ne same, ih]

theorem lookup_put_ne (different : other ≠ key) :
    (put key value members).lookup other = members.lookup other := by
  induction members with
  | nil => exact lookup_cons_of_ne (Ne.symm different)
  | cons member rest ih =>
      obtain ⟨first, held⟩ := member
      by_cases same : first = key
      · have elsewhere : first ≠ other := same ▸ Ne.symm different
        rw [put_cons_of_eq same, lookup_cons_of_ne elsewhere, lookup_cons_of_ne elsewhere]
      · rw [put_cons_of_ne same]
        by_cases here : first = other
        · rw [lookup_cons_of_eq here, lookup_cons_of_eq here]
        · rw [lookup_cons_of_ne here, lookup_cons_of_ne here, ih]

theorem put_of_not_mem (absent : key ∉ keys members) :
    put key value members = members ++ [(key, value)] := by
  induction members with
  | nil => rfl
  | cons member rest ih =>
      obtain ⟨first, held⟩ := member
      rw [keys_cons, List.mem_cons, not_or] at absent
      rw [put_cons_of_ne (Ne.symm absent.1), ih absent.2, List.cons_append]

theorem put_append_cons {front : List (Key × Value)} (absent : key ∉ keys front) :
    put key value (front ++ (key, held) :: rest) = front ++ (key, value) :: rest := by
  induction front with
  | nil => exact put_cons_of_eq rfl
  | cons member front ih =>
      obtain ⟨first, other⟩ := member
      rw [keys_cons, List.mem_cons, not_or] at absent
      rw [List.cons_append, put_cons_of_ne (Ne.symm absent.1), ih absent.2, List.cons_append]

theorem put_of_lookup (found : members.lookup key = some value) :
    put key value members = members := by
  induction members with
  | nil => cases found
  | cons member rest ih =>
      obtain ⟨first, held⟩ := member
      by_cases same : first = key
      · rw [lookup_cons_of_eq same, Option.some.injEq] at found
        rw [put_cons_of_eq same, ← found]
      · rw [lookup_cons_of_ne same] at found
        rw [put_cons_of_ne same, ih found]

@[simp] theorem put_put {old : Value} :
    put key value (put key old members) = put key value members := by
  induction members with
  | nil => exact put_cons_of_eq rfl
  | cons member rest ih =>
      obtain ⟨first, held⟩ := member
      by_cases same : first = key
      · rw [put_cons_of_eq same, put_cons_of_eq same, put_cons_of_eq same]
      · rw [put_cons_of_ne same, put_cons_of_ne same, put_cons_of_ne same, ih]

theorem keys_put_of_mem (present : key ∈ keys members) :
    keys (put key value members) = keys members := by
  induction members with
  | nil => cases present
  | cons member rest ih =>
      obtain ⟨first, held⟩ := member
      by_cases same : first = key
      · rw [put_cons_of_eq same, keys_cons, keys_cons]
      · have later : key ∈ keys rest := by simpa [Ne.symm same] using present
        rw [put_cons_of_ne same, keys_cons, keys_cons, ih later]

theorem keys_put_of_not_mem (absent : key ∉ keys members) :
    keys (put key value members) = keys members ++ [key] := by
  simp [put_of_not_mem absent, keys]

theorem mem_keys_put : other ∈ keys (put key value members) ↔ other = key ∨ other ∈ keys members := by
  by_cases present : key ∈ keys members
  · rw [keys_put_of_mem present]
    exact ⟨.inr, fun either => either.elim (fun same => same ▸ present) id⟩
  · rw [keys_put_of_not_mem present, List.mem_append, List.mem_singleton]
    exact or_comm

theorem nodup_keys_put (distinct : (keys members).Nodup) :
    (keys (put key value members)).Nodup := by
  by_cases present : key ∈ keys members
  · rwa [keys_put_of_mem present]
  · rw [keys_put_of_not_mem present]
    refine List.nodup_append.mpr ⟨distinct, List.nodup_singleton key, ?_⟩
    rintro found among last (_ | ⟨_, impossible⟩) rfl
    · exact present among
    · cases impossible

/-- A member of an object in which a key was set is an old member under another
key, or the one that was set. -/
theorem mem_put (distinct : (keys members).Nodup) {found : Value}
    (present : (other, found) ∈ put key value members) :
    (other = key ∧ found = value) ∨ (other ≠ key ∧ (other, found) ∈ members) := by
  have read := lookup_of_mem (nodup_keys_put distinct) present
  by_cases same : other = key
  · subst same
    rw [lookup_put_self, Option.some.injEq] at read
    exact .inl ⟨rfl, read.symm⟩
  · rw [lookup_put_ne same] at read
    exact .inr ⟨same, mem_of_lookup read⟩

/-! ## Removing -/

theorem erase_cons_of_eq (same : first = key) : erase key ((first, held) :: rest) = rest := by
  simp [erase, same]

theorem erase_cons_of_ne (different : first ≠ key) :
    erase key ((first, held) :: rest) = (first, held) :: erase key rest := by
  simp [erase, different]

theorem lookup_erase_ne (different : other ≠ key) :
    (erase key members).lookup other = members.lookup other := by
  induction members with
  | nil => rfl
  | cons member rest ih =>
      obtain ⟨first, held⟩ := member
      by_cases same : first = key
      · rw [erase_cons_of_eq same, lookup_cons_of_ne (same ▸ Ne.symm different)]
      · rw [erase_cons_of_ne same]
        by_cases here : first = other
        · rw [lookup_cons_of_eq here, lookup_cons_of_eq here]
        · rw [lookup_cons_of_ne here, lookup_cons_of_ne here, ih]

theorem lookup_erase_self (distinct : (keys members).Nodup) :
    (erase key members).lookup key = none := by
  induction members with
  | nil => rfl
  | cons member rest ih =>
      obtain ⟨first, held⟩ := member
      rw [keys_cons, List.nodup_cons] at distinct
      by_cases same : first = key
      · rw [erase_cons_of_eq same]
        exact lookup_eq_none_iff.mpr (same ▸ distinct.1)
      · rw [erase_cons_of_ne same, lookup_cons_of_ne same, ih distinct.2]

/-! ## Renaming -/

/-- Renaming a key that is there to one that is not moves its value and leaves
every other key alone. -/
theorem lookup_renameKey_new {old new : Key} (absent : new ∉ keys members) :
    (renameKey old new members).lookup new = members.lookup old := by
  induction members with
  | nil => rfl
  | cons member rest ih =>
      obtain ⟨first, held⟩ := member
      rw [keys_cons, List.mem_cons, not_or] at absent
      by_cases same : first = old
      · rw [lookup_cons_of_eq same]
        simp [renameKey, same]
      · rw [lookup_cons_of_ne same, ← ih absent.2]
        simp only [renameKey, List.map_cons, if_neg same]
        exact lookup_cons_of_ne (Ne.symm absent.1)

theorem keys_renameKey (old new : Key) :
    keys (renameKey old new members) =
      (keys members).map fun key => if key = old then new else key := by
  simp only [renameKey, keys, List.map_map, Function.comp_def]

theorem nodup_keys_renameKey {old new : Key} (distinct : (keys members).Nodup)
    (absent : new ∉ keys members) : (keys (renameKey old new members)).Nodup := by
  rw [keys_renameKey]
  refine distinct.map_on fun first inside second among same => ?_
  -- Only the old key becomes the new one, which no other key is.
  split at same
  · split at same
    · rename_i left right
      rw [left, right]
    · exact absurd among (same ▸ absent)
  · split at same
    · exact absurd inside (same ▸ absent)
    · exact same

theorem old_not_mem_keys_renameKey {old new : Key} (different : old ≠ new) :
    old ∉ keys (renameKey old new members) := by
  rw [keys_renameKey, List.mem_map]
  rintro ⟨key, _, same⟩
  split at same
  · exact different same.symm
  · rename_i other
    exact other same

/-! ## Names -/

theorem has_iff {name : String} : has members name = true ↔ Key.str name ∈ keys members := by
  rw [has, get?, Option.isSome_iff_ne_none, ne_eq, lookup_eq_none_iff, not_not]

theorem has_eq_false_iff {name : String} : has members name = false ↔ Key.str name ∉ keys members := by
  rw [← has_iff, Bool.not_eq_true]

theorem get?_eq_none_iff {name : String} : get? members name = none ↔ Key.str name ∉ keys members :=
  lookup_eq_none_iff

@[simp] theorem get?_put_self {name : String} :
    get? (put (.str name) value members) name = some value := lookup_put_self

theorem get?_put_ne {name old : String} (different : old ≠ name) :
    get? (put (.str name) value members) old = get? members old :=
  lookup_put_ne fun same => different (Key.str.inj same)

end ApiReview.Members
