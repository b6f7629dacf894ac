import ApiReview.Rule.Basic

/-!
Registries of rules. Rules are grouped by the guideline number they were registered under; groups
stand in the order of their first rule, and rules of a group in the order of registration. No two
rules of a registry have the same id.
-/

set_option autoImplicit false

namespace ApiReview

/-- Rules in groups. -/
structure Registry where
  groups : List (Int × List Rule) := []

namespace Registry

def empty : Registry := {}

/-- All rules, group by group. -/
def all (registry : Registry) : List Rule := registry.groups.flatMap (·.2)

def byId? (registry : Registry) (id : String) : Option Rule :=
  registry.all.find? fun rule => rule.id == id

def byNumber (registry : Registry) (number : Int) : List Rule :=
  (registry.groups.lookup number).getD []

/-- The rules of a category, if the category of each rule has a value. -/
def byCategory (registry : Registry) (category : Category) : Except Fault (List Rule) :=
  registry.all.filterM fun rule => do .ok (decide ((← rule.statedCategory) = category))

def byKind (registry : Registry) (kind : RuleKind) : List Rule :=
  registry.all.filter fun rule => rule.kind = kind

/-- The numbers that rules are registered under, in ascending order. -/
def numbers (registry : Registry) : List Int :=
  (registry.groups.map (·.1)).mergeSort fun left right => decide (left ≤ right)

def size (registry : Registry) : Nat := registry.all.length

/-- Groups with a rule added to the group of a number, which is opened when there is none. -/
def insertInto (number : Int) (rule : Rule) : List (Int × List Rule) → List (Int × List Rule)
  | [] => [(number, [rule])]
  | (known, rules) :: rest =>
    if known = number then (known, rules ++ [rule]) :: rest
    else (known, rules) :: insertInto number rule rest

/-- Registers rules under a number, one by one, up to the first whose id is taken; gives that id. -/
def register (registry : Registry) (number : Int) : List Rule → Registry × Option String
  | [] => (registry, none)
  | rule :: rest =>
    if (registry.byId? rule.id).isSome then (registry, some rule.id)
    else register ⟨insertInto number rule registry.groups⟩ number rest

def takenMessage (id : String) : String := "Rule " ++ id ++ " is already registered"

/-- The registry of several groups, as far as their ids are not taken. -/
def ofGroups (groups : List (Int × List Rule)) : Registry :=
  groups.foldl (fun registry (number, rules) => (registry.register number rules).1) empty

end Registry

end ApiReview
