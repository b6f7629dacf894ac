import ApiReview.Node.Equality
import ApiReview.Proofs.Node.Named

/-! JSON values. Objects are keyed by distinct names and floats are numbers, so that
every value is the same as itself; of documents at large this is not true, since a
float that is no number differs from itself. -/

set_option autoImplicit false

namespace ApiReview.Node

mutual

/-- Whether a node is a JSON value. -/
def isJson : Node → Bool
  | .float number => decide (number.value ≠ .undefined)
  | .time _ => false
  | .list items => areJson items
  | .object members => decide (Members.keys members).Nodup && haveJson members
  | _ => true

/-- Whether all items of a list are JSON values. -/
def areJson : List Node → Bool
  | [] => true
  | item :: rest => item.isJson && areJson rest

/-- Whether all members of an object have names and are JSON values. -/
def haveJson : List (Key × Node) → Bool
  | [] => true
  | (key, value) :: rest => key.isName && value.isJson && haveJson rest

end

variable {members rest : Members} {name : String} {value : Node}

theorem compareScaled_self (mantissa exponent : Int) :
    Binary64.compareScaled mantissa exponent mantissa exponent = .eq := by
  rw [Binary64.compareScaled]
  exact compare_eq_iff_eq.mpr rfl

theorem compare?_self {number : Binary64.Value} (defined : number ≠ .undefined) :
    number.compare? number = some .eq := by
  cases number with
  | finite negative mantissa exponent => exact congrArg some (compareScaled_self _ _)
  | infinite negative => simp [Binary64.Value.compare?]
  | undefined => exact absurd rfl defined

theorem findSame?_of_mem (distinct : (Members.keys members).Nodup)
    (named : ∀ key ∈ Members.keys members, key.isName = true)
    (among : (Key.str name, value) ∈ members) :
    Members.findSame? members (.str name) = some value := by
  induction members with
  | nil => cases among
  | cons first members ih =>
      obtain ⟨key, held⟩ := first
      obtain ⟨other, rfl⟩ := Key.eq_str_of_isName (named key List.mem_cons_self)
      rw [Members.keys_cons, List.nodup_cons] at distinct
      have same : (Key.str other).same (.str name) = decide (other = name) := rfl
      rw [Members.findSame?]
      rcases List.mem_cons.mp among with here | among
      · cases here
        rw [List.find?_cons_of_pos (by simp [same])]
        rfl
      · have different : other ≠ name := by
          rintro rfl
          exact distinct.1 (Members.mem_keys_of_mem among)
        rw [List.find?_cons_of_neg (by simp [same, different])]
        exact ih distinct.2 (fun key among => named key (List.mem_cons_of_mem _ among)) among

theorem named_of_haveJson {key : Key} (json : haveJson members = true)
    (among : (key, value) ∈ members) : key.isName = true := by
  induction members with
  | nil => cases among
  | cons first members ih =>
      obtain ⟨head, held⟩ := first
      rw [haveJson, Bool.and_eq_true, Bool.and_eq_true] at json
      rcases List.mem_cons.mp among with here | among
      · cases here
        exact json.1.1
      · exact ih json.2 among

theorem isJson_of_haveJson {key : Key} (json : haveJson members = true)
    (among : (key, value) ∈ members) : value.isJson = true := by
  induction members with
  | nil => cases among
  | cons first members ih =>
      obtain ⟨head, held⟩ := first
      rw [haveJson, Bool.and_eq_true, Bool.and_eq_true] at json
      rcases List.mem_cons.mp among with here | among
      · cases here
        exact json.1.2
      · exact ih json.2 among

theorem isJson_of_areJson {items : List Node} {item : Node} (json : areJson items = true)
    (among : item ∈ items) : item.isJson = true := by
  induction items with
  | nil => cases among
  | cons first items ih =>
      rw [areJson, Bool.and_eq_true] at json
      rcases List.mem_cons.mp among with rfl | among
      · exact json.1
      · exact ih json.2 among

mutual

theorem same_self : ∀ {node : Node}, node.isJson = true → node.same node = true
  | .list items, json => sameItems_self json
  | .object members, json => by
      rw [isJson, Bool.and_eq_true] at json
      have distinct := of_decide_eq_true json.1
      have named : ∀ key value, (key, value) ∈ members → key.isName = true := fun _ _ =>
        named_of_haveJson json.2
      have found : ∀ key value, (key, value) ∈ members →
          Members.findSame? members key = some value := by
        intro key value among
        obtain ⟨name, rfl⟩ := Key.eq_str_of_isName (named key value among)
        refine findSame?_of_mem distinct (fun other present => ?_) among
        obtain ⟨held, inside⟩ := Members.exists_mem_of_mem_keys present
        exact named other held inside
      rw [same, beq_self_eq_true, sameMembers_self json.2 found, Bool.and_self]
  | .float number, json => by
      have defined := of_decide_eq_true json
      have same : (Quantity.binary number).compare? (.binary number) = some .eq :=
        compare?_self defined
      simp [Node.same, sameScalar, quantity?, Quantity.same, same]
  | .null, _ => rfl
  | .bool flag, _ => by cases flag <;> decide
  | .int number, _ => by
      have same : (Quantity.whole number).compare? (.whole number) = some .eq :=
        compare?_self nofun
      simp [Node.same, sameScalar, quantity?, Quantity.same, same]
  | .str text, _ => by simp [Node.same, sameScalar]

theorem sameItems_self : ∀ {items : List Node}, areJson items = true → sameItems items items = true
  | [], _ => rfl
  | item :: rest, json => by
      rw [areJson, Bool.and_eq_true] at json
      rw [sameItems, same_self json.1, sameItems_self json.2]
      rfl

theorem sameMembers_self : ∀ {rest members : Members}, haveJson rest = true →
    (∀ key value, (key, value) ∈ rest → Members.findSame? members key = some value) →
    sameMembers rest members = true
  | [], _, _, _ => rfl
  | (key, value) :: rest, members, json, found => by
      rw [haveJson, Bool.and_eq_true, Bool.and_eq_true] at json
      have later := sameMembers_self json.2 fun key value among =>
        found key value (List.mem_cons_of_mem _ among)
      rw [sameMembers, found key value List.mem_cons_self, later, Bool.and_true]
      exact same_self json.1.2

end

end ApiReview.Node
