import ApiReview.Proofs.Correlation
import ApiReview.Proofs.Outcome
import ApiReview.Rule.Registry

/-! The views of a registry after calls that register rules, of which some stop at an
id that is taken. A log keeps each rule that was registered, with its number; the
groups of the registry, and an index by id beside them, are what the log makes of
itself, so every view can be read off the log. -/

set_option autoImplicit false

namespace ApiReview

namespace Registry

/-! ## The log of registrations -/

/-- The log behind a call that registers rules under a number, up to the first whose id it holds. -/
def logged (log : List (Int × Rule)) (number : Int) : List Rule → List (Int × Rule)
  | [] => log
  | rule :: rest =>
    if log.any fun entry => entry.2.id == rule.id then log
    else logged (log ++ [(number, rule)]) number rest

/-- What some calls register, in the order of registration. -/
def registrations (calls : List (Int × List Rule)) : List (Int × Rule) :=
  calls.foldl (fun log (number, rules) => logged log number rules) []

def grouped (log : List (Int × Rule)) : List (Int × List Rule) :=
  log.foldl (fun groups (number, rule) => insertInto number rule groups) []

end Registry

/-- Rules under two indexes: in groups by number, and by id. -/
structure RuleIndexes where
  byNumber : List (Int × List Rule) := []
  byId : List (String × Rule) := []

namespace RuleIndexes

/-- Puts rules under both indexes, one by one, up to the first whose id is in use; gives that id. -/
def register (indexes : RuleIndexes) (number : Int) : List Rule → RuleIndexes × Option String
  | [] => (indexes, none)
  | rule :: rest =>
    if (indexes.byId.lookup rule.id).isSome then (indexes, some rule.id)
    else register ⟨Registry.insertInto number rule indexes.byNumber,
      indexes.byId ++ [(rule.id, rule)]⟩ number rest

/-- The indexes behind some calls. -/
def ofCalls (calls : List (Int × List Rule)) : RuleIndexes :=
  calls.foldl (fun indexes (number, rules) => (indexes.register number rules).1) {}

def ofLog (log : List (Int × Rule)) : RuleIndexes where
  byNumber := Registry.grouped log
  byId := log.map fun (_, rule) => (rule.id, rule)

end RuleIndexes

namespace Registry

variable {registry : Registry} {log : List (Int × Rule)} {groups : List (Int × List Rule)}

/-! ## Groups -/

section Groups

variable (number : Int) (rule : Rule)

theorem keys_insertInto : (insertInto number rule groups).map (·.1) =
    if number ∈ groups.map (·.1) then groups.map (·.1) else groups.map (·.1) ++ [number] := by
  induction groups with
  | nil => rfl
  | cons group groups ih =>
      obtain ⟨known, rules⟩ := group
      by_cases same : known = number
      · simp [insertInto, same]
      · have other : ¬ number = known := fun equal => same equal.symm
        simp only [insertInto, if_neg same, List.map_cons, ih, List.mem_cons, other, false_or]
        split <;> rfl

theorem lookup_insertInto (asked : Int) :
    ((insertInto number rule groups).lookup asked).getD [] =
      (groups.lookup asked).getD [] ++ if number = asked then [rule] else [] := by
  induction groups with
  | nil =>
      by_cases same : number = asked
      · simp [insertInto, List.lookup, same]
      · simp [insertInto, List.lookup, same, beq_false_of_ne (Ne.symm same)]
  | cons group groups ih =>
      obtain ⟨known, rules⟩ := group
      by_cases same : known = number
      · subst same
        by_cases found : asked = known
        · simp [insertInto, List.lookup, found]
        · simp [insertInto, List.lookup, beq_false_of_ne found, Ne.symm found]
      · by_cases found : asked = known
        · have other : ¬ number = known := fun equal => same equal.symm
          simp [insertInto, same, List.lookup, found, other]
        · simp only [insertInto, if_neg same, List.lookup, beq_false_of_ne found]
          exact ih

theorem insertInto_perm :
    ((insertInto number rule groups).flatMap (·.2)).Perm (groups.flatMap (·.2) ++ [rule]) := by
  induction groups with
  | nil => exact List.Perm.refl _
  | cons group groups ih =>
      obtain ⟨known, rules⟩ := group
      by_cases same : known = number
      · simp only [insertInto, if_pos same, List.flatMap_cons, List.append_assoc]
        exact List.perm_append_comm.append_left rules
      · simp only [insertInto, if_neg same, List.flatMap_cons, List.append_assoc]
        exact ih.append_left rules

end Groups

theorem grouped_append (log : List (Int × Rule)) (number : Int) (rule : Rule) :
    grouped (log ++ [(number, rule)]) = insertInto number rule (grouped log) := by
  simp [grouped]

theorem keys_grouped (log : List (Int × Rule)) :
    (grouped log).map (·.1) = (log.map (·.1)).eraseDups := by
  induction log using List.reverseRecOn with
  | nil => rfl
  | append_singleton log entry ih =>
      obtain ⟨number, rule⟩ := entry
      rw [grouped_append, keys_insertInto, ih, List.map_append, List.eraseDups_append]
      by_cases known : number ∈ log.map (·.1)
      · simp [List.removeAll, known, List.mem_eraseDups]
      · simp [List.removeAll, known, List.mem_eraseDups, List.eraseDups_cons]

theorem lookup_grouped (log : List (Int × Rule)) (number : Int) :
    ((grouped log).lookup number).getD [] =
      (log.filter fun entry => entry.1 = number).map (·.2) := by
  induction log using List.reverseRecOn with
  | nil => rfl
  | append_singleton log entry ih =>
      obtain ⟨known, rule⟩ := entry
      rw [grouped_append, lookup_insertInto, ih, List.filter_append, List.map_append]
      by_cases same : known = number <;> simp [same]

theorem grouped_perm (log : List (Int × Rule)) :
    ((grouped log).flatMap (·.2)).Perm (log.map (·.2)) := by
  induction log using List.reverseRecOn with
  | nil => exact List.Perm.refl _
  | append_singleton log entry ih =>
      obtain ⟨number, rule⟩ := entry
      rw [grouped_append, List.map_append]
      exact (insertInto_perm number rule).trans (ih.append_right [rule])

/-- Groups under distinct numbers are found one after the other under their numbers. -/
theorem flatMap_lookup (distinct : (groups.map (·.1)).Nodup) :
    groups.flatMap (·.2) =
      (groups.map (·.1)).flatMap fun number => (groups.lookup number).getD [] := by
  induction groups with
  | nil => rfl
  | cons group groups ih =>
      obtain ⟨number, rules⟩ := group
      obtain ⟨fresh, distinct⟩ := List.nodup_cons.mp distinct
      simp only [List.flatMap_cons, List.map_cons, List.lookup_cons_self, Option.getD_some,
        ih distinct]
      congr 1
      refine List.flatMap_congr fun other among => ?_
      have apart : ¬ other = number := fun same => fresh (same ▸ among)
      simp [List.lookup, beq_false_of_ne apart]

/-! ## Registering -/

/-- A registry holds what is in a log, in which no id stands twice. -/
structure Tracks (registry : Registry) (log : List (Int × Rule)) : Prop where
  groups : registry.groups = grouped log
  distinct : (log.map (·.2.id)).Nodup

theorem Tracks.all_perm (tracks : registry.Tracks log) : registry.all.Perm (log.map (·.2)) := by
  unfold Registry.all
  rw [tracks.groups]
  exact grouped_perm log

theorem Tracks.isSome_byId? (tracks : registry.Tracks log) (id : String) :
    (registry.byId? id).isSome = log.any fun entry => entry.2.id == id := by
  have same : registry.all.any (fun rule => rule.id == id) =
      (log.map (·.2)).any fun rule => rule.id == id := tracks.all_perm.any_eq
  rw [byId?, List.isSome_find?, same, List.any_map]
  rfl

theorem lookup_ofLog (log : List (Int × Rule)) (id : String) :
    (RuleIndexes.ofLog log).byId.lookup id =
      (log.map (·.2)).find? fun rule => rule.id == id := by
  unfold RuleIndexes.ofLog
  induction log with
  | nil => rfl
  | cons entry log ih =>
      by_cases same : entry.2.id = id
      · simp [same]
      · simpa [List.lookup, beq_false_of_ne (Ne.symm same), beq_false_of_ne same] using ih

theorem isSome_lookup_ofLog (log : List (Int × Rule)) (id : String) :
    ((RuleIndexes.ofLog log).byId.lookup id).isSome = log.any fun entry => entry.2.id == id := by
  rw [lookup_ofLog, List.isSome_find?, List.any_map]
  rfl

/-- A call adds to the registry, to the indexes and to the log the same rules, and is stopped by the
same id, if one is taken. -/
theorem Tracks.register (tracks : registry.Tracks log) (number : Int) (rules : List Rule) :
    (registry.register number rules).1.Tracks (logged log number rules) ∧
      (RuleIndexes.ofLog log).register number rules =
        (RuleIndexes.ofLog (logged log number rules), (registry.register number rules).2) := by
  induction rules generalizing registry log with
  | nil => exact ⟨tracks, rfl⟩
  | cons rule rest ih =>
      have known := tracks.isSome_byId? rule.id
      have indexed := isSome_lookup_ofLog log rule.id
      unfold Registry.register RuleIndexes.register logged
      cases taken : log.any fun entry => entry.2.id == rule.id with
      | true =>
          rw [taken] at known indexed
          rw [known, indexed]
          exact ⟨tracks, rfl⟩
      | false =>
          rw [taken] at known indexed
          rw [known, indexed]
          have fresh : rule.id ∉ log.map (·.2.id) := by
            intro among
            obtain ⟨entry, listed, same⟩ := List.mem_map.mp among
            have free := List.any_eq_false.mp taken entry listed
            exact free (beq_iff_eq.mpr same)
          have next :
              Tracks ⟨insertInto number rule registry.groups⟩ (log ++ [(number, rule)]) := by
            constructor
            · rw [grouped_append, ← tracks.groups]
            · rw [List.map_append]
              exact List.nodup_append.mpr ⟨tracks.distinct, by simp, by
                intro id among other single same
                cases List.mem_singleton.mp single
                subst same
                exact fresh among⟩
          have behind : (⟨insertInto number rule (RuleIndexes.ofLog log).byNumber,
              (RuleIndexes.ofLog log).byId ++ [(rule.id, rule)]⟩ : RuleIndexes) =
                RuleIndexes.ofLog (log ++ [(number, rule)]) := by
            simp [RuleIndexes.ofLog, grouped_append]
          simpa [behind] using ih next

/-- Calls leave a registry and indexes that hold what was registered. -/
theorem tracks_ofGroups (calls : List (Int × List Rule)) :
    (Registry.ofGroups calls).Tracks (registrations calls) ∧
      RuleIndexes.ofCalls calls = RuleIndexes.ofLog (registrations calls) := by
  unfold Registry.ofGroups RuleIndexes.ofCalls registrations
  have start : Registry.empty.Tracks [] := ⟨rfl, List.nodup_nil⟩
  have indexes : ({} : RuleIndexes) = RuleIndexes.ofLog [] := rfl
  rw [indexes]
  generalize Registry.empty = registry at start
  generalize ([] : List (Int × Rule)) = log at start
  induction calls generalizing registry log with
  | nil => exact ⟨start, rfl⟩
  | cons call calls ih =>
      obtain ⟨number, rules⟩ := call
      obtain ⟨tracks, registered⟩ := start.register number rules
      simpa [registered] using ih _ _ tracks

/-! ## Views -/

variable {rule : Rule} {id : String} {number : Int}

theorem Tracks.distinct_all (tracks : registry.Tracks log) : (registry.all.map (·.id)).Nodup := by
  have ids := tracks.all_perm.map (·.id)
  rw [List.map_map] at ids
  exact ids.nodup_iff.mpr tracks.distinct

/-- Where no id stands twice, the rule that is found under an id is the only one that has it. -/
theorem find?_id_eq_some_iff {rules : List Rule} (distinct : (rules.map (·.id)).Nodup) :
    rules.find? (fun rule => rule.id == id) = some rule ↔ rule ∈ rules ∧ rule.id = id := by
  constructor
  · intro found
    have same := List.find?_some found
    exact ⟨List.mem_of_find?_eq_some found, by simpa using same⟩
  · rintro ⟨listed, rfl⟩
    cases found : rules.find? fun other => other.id == rule.id with
    | none =>
        have unequal := List.find?_eq_none.mp found rule listed
        simp at unequal
    | some other =>
        have same := List.find?_some found
        rw [List.inj_on_of_nodup_map distinct (List.mem_of_find?_eq_some found) listed
          (by simpa using same)]

theorem Tracks.byId?_eq_some_iff (tracks : registry.Tracks log) :
    registry.byId? id = some rule ↔ rule ∈ registry.all ∧ rule.id = id :=
  find?_id_eq_some_iff tracks.distinct_all

theorem Tracks.lookup_eq_byId? (tracks : registry.Tracks log) (id : String) :
    (RuleIndexes.ofLog log).byId.lookup id = registry.byId? id := by
  have distinct : ((log.map (·.2)).map (·.id)).Nodup := by
    simpa [Function.comp_def] using tracks.distinct
  ext rule
  rw [lookup_ofLog, find?_id_eq_some_iff distinct, tracks.byId?_eq_some_iff,
    tracks.all_perm.mem_iff]

theorem Tracks.byNumber_eq (tracks : registry.Tracks log) (number : Int) :
    registry.byNumber number = (log.filter fun entry => entry.1 = number).map (·.2) := by
  rw [byNumber, tracks.groups, lookup_grouped]

theorem Tracks.all_eq (tracks : registry.Tracks log) :
    registry.all = (log.map (·.1)).eraseDups.flatMap registry.byNumber := by
  have keys := keys_grouped log
  have distinct : ((grouped log).map (·.1)).Nodup := keys ▸ nodup_eraseDups (log.map (·.1))
  unfold all byNumber
  rw [tracks.groups, flatMap_lookup distinct, keys]

theorem Tracks.mem_numbers_iff (tracks : registry.Tracks log) :
    number ∈ registry.numbers ↔ registry.byNumber number ≠ [] := by
  have used : number ∈ registry.numbers ↔ ∃ entry ∈ log, entry.1 = number := by
    rw [numbers, List.mem_mergeSort, tracks.groups, keys_grouped, List.mem_eraseDups, List.mem_map]
  rw [used, tracks.byNumber_eq]
  simp

/-- The numbers are listed in ascending order, each once. -/
theorem Tracks.numbers_ascending (tracks : registry.Tracks log) :
    registry.numbers.Pairwise (· < ·) := by
  have sorted : registry.numbers.Pairwise fun left right => decide (left ≤ right) = true :=
    List.pairwise_mergeSort (by simp; omega) (by simp; omega) _
  have distinct : registry.numbers.Nodup := by
    rw [numbers, (List.mergeSort_perm _ _).nodup_iff, tracks.groups, keys_grouped]
    exact nodup_eraseDups (log.map (·.1))
  refine (sorted.and distinct).imp ?_
  intro left right both
  have below := of_decide_eq_true both.1
  have apart := both.2
  omega

end Registry

/-! ## Categories -/

/-- A rule leaves its category to a guideline whose number has too many digits to be read. -/
def RuleHeader.HasOverlongLabel (header : RuleHeader) : Prop :=
  header.ownCategory? = none ∧ ∃ text digits, header.aip? = some text ∧
    Guideline.firstLabelDigits? text.toList = some digits ∧ Integer.digitLimit < digits.length

theorem RuleHeader.statedCategory_ok_iff {header : RuleHeader} :
    header.statedCategory = .ok header.category ↔ ¬ header.HasOverlongLabel := by
  unfold HasOverlongLabel category statedCategory Guideline.categoryOf Guideline.number?
  cases header.ownCategory? with
  | some own => simp [Except.toOption]
  | none =>
      cases header.aip? with
      | none => simp [Except.toOption]
      | some text =>
          cases labelled : Guideline.firstLabelDigits? text.toList with
          | none => simp [labelled, bind, Except.bind, Except.toOption]
          | some digits =>
              by_cases long : Integer.digitLimit < digits.length
              · simp [labelled, Integer.isTooLong, long, bind, Except.bind]
              · simp [labelled, Integer.isTooLong, long, bind, Except.bind, Except.toOption]

namespace Registry

variable {registry : Registry} {calls : List (Int × List Rule)}

/-- The rules of a category are listed where the category of every rule has a value. -/
theorem byCategory_eq_ok_iff {category : Category} {listed : List Rule} :
    registry.byCategory category = .ok listed ↔
      (∀ rule ∈ registry.all, ¬ rule.HasOverlongLabel) ∧
        listed = registry.all.filter fun rule => rule.category = category := by
  have test (rule : Rule) :
      (rule.statedCategory >>= fun stated => Except.ok (decide (stated = category))) =
        rule.statedCategory.map fun stated => decide (stated = category) := by
    cases rule.statedCategory <;> rfl
  have answered (rule : Rule) :
      (∃ verdict, (rule.statedCategory.map fun stated => decide (stated = category)) =
        .ok verdict) ↔ ¬ rule.HasOverlongLabel := by
    rw [← RuleHeader.statedCategory_ok_iff]
    cases stated : rule.statedCategory with
    | error fault => simp [Except.map]
    | ok own => simp [Except.map, RuleHeader.category, stated, Except.toOption]
  unfold byCategory
  simp only [test, filterM_eq_ok_iff, answered]
  refine and_congr_right fun short => ?_
  have same : (registry.all.filter fun rule =>
      (rule.statedCategory.map fun stated => decide (stated = category)).toOption.getD false) =
        registry.all.filter fun rule => rule.category = category := by
    refine List.filter_congr fun rule listed => ?_
    have stated := RuleHeader.statedCategory_ok_iff.mpr (short rule listed)
    simp [stated, Except.map, Except.toOption]
  rw [same]

/-! ## Consistent views -/

/-- The views of a registry show what a log holds, and agree with each other. -/
structure Shows (registry : Registry) (log : List (Int × Rule)) : Prop where
  distinct : (registry.all.map (·.id)).Nodup
  size : registry.size = registry.all.length
  byId : ∀ id rule, registry.byId? id = some rule ↔ rule ∈ registry.all ∧ rule.id = id
  byNumber : ∀ number,
    registry.byNumber number = (log.filter fun entry => entry.1 = number).map (·.2)
  all : registry.all = (log.map (·.1)).eraseDups.flatMap registry.byNumber
  ascending : registry.numbers.Pairwise (· < ·)
  numbers : ∀ number, number ∈ registry.numbers ↔ registry.byNumber number ≠ []
  byKind : ∀ kind, (registry.byKind kind).Sublist registry.all
  kind : ∀ rule ∈ registry.all, ∀ kind, rule ∈ registry.byKind kind ↔ rule.kind = kind

theorem Tracks.shows {log : List (Int × Rule)} (tracks : registry.Tracks log) :
    registry.Shows log where
  distinct := tracks.distinct_all
  size := rfl
  byId _ _ := tracks.byId?_eq_some_iff
  byNumber := tracks.byNumber_eq
  all := tracks.all_eq
  ascending := tracks.numbers_ascending
  numbers _ := tracks.mem_numbers_iff
  byKind _ := List.filter_sublist
  kind rule listed kind := by simp [Registry.byKind, listed]

end Registry

open Registry in
/-- After any calls that register rules, also calls that stop at an id that is taken, the views of
the registry show what was registered, and agree with an index by id that is kept in step. The rules
of a category are listed if and only if no rule leaves its category to a guideline whose number has
too many digits, and then each rule is listed under its own category only. -/
theorem registry_views_agree_iff (calls : List (Int × List Rule)) :
    let registry := Registry.ofGroups calls
    let log := registrations calls
    let indexes := RuleIndexes.ofCalls calls
    registry.Shows log ∧
    indexes = ⟨registry.groups, log.map fun (_, rule) => (rule.id, rule)⟩ ∧
    registry.size = indexes.byId.length ∧
    (∀ id, registry.byId? id = indexes.byId.lookup id) ∧
    (∀ number rules, (registry.register number rules).2 = (indexes.register number rules).2) ∧
    (∀ category, (∃ listed, registry.byCategory category = .ok listed) ↔
      ∀ rule ∈ registry.all, ¬ rule.HasOverlongLabel) ∧
    ∀ category listed, registry.byCategory category = .ok listed →
      listed.Sublist registry.all ∧
        ∀ rule ∈ registry.all, rule ∈ listed ↔ rule.category = category := by
  intro registry log indexes
  obtain ⟨tracks, same⟩ := tracks_ofGroups calls
  have kept : indexes = RuleIndexes.ofLog log := same
  refine ⟨tracks.shows, ?_, ?_, ?_, ?_, ?_, ?_⟩
  · rw [kept, tracks.groups]
    rfl
  · have length := tracks.all_perm.length_eq
    simpa [kept, RuleIndexes.ofLog, Registry.size] using length
  · intro id
    rw [kept, tracks.lookup_eq_byId?]
  · intro number rules
    rw [kept, (tracks.register number rules).2]
  · intro category
    simp [byCategory_eq_ok_iff]
  · intro category listed found
    obtain ⟨-, rfl⟩ := byCategory_eq_ok_iff.mp found
    refine ⟨List.filter_sublist, ?_⟩
    intro rule among
    simp [among]

def ruleOfOnes (count : Nat) : Rule where
  id := "acme/ones"
  name := "Ones"
  severity := .warning
  description := ""
  aip? := some (String.ofList ("AIP-".toList ++ List.replicate count '1'))
  check := .spec fun _ => .ok []

theorem ruleOfOnes_overlong_iff {count : Nat} (some_digit : count ≠ 0) :
    (ruleOfOnes count).HasOverlongLabel ↔ Integer.digitLimit < count := by
  have label : ("AIP-".toList.take 3).map Text.Letter.fold = "aip".toList := by decide
  have digit : Text.Letter.isDecimal '1' = true := by decide
  have digits : Guideline.firstLabelDigits? ("AIP-".toList ++ List.replicate count '1') =
      some (List.replicate count '1') := by
    simp_all [Guideline.firstLabelDigits?, Guideline.labelDigits?]
  simp only [RuleHeader.HasOverlongLabel, ruleOfOnes, Option.some.injEq, exists_and_left,
    exists_eq_left', String.toList_ofList, digits, List.length_replicate, true_and]

theorem registry_views_agree_iff_overlong :
    (∃ listed, (Registry.ofGroups [(122, [ruleOfOnes 4300])]).byCategory .naming = .ok listed) ∧
    ruleOfOnes 4301 ∈ (Registry.ofGroups [(122, [ruleOfOnes 4301])]).all ∧
    ¬ ∃ listed, (Registry.ofGroups [(122, [ruleOfOnes 4301])]).byCategory .naming = .ok listed := by
  have held (count : Nat) :
      (Registry.ofGroups [(122, [ruleOfOnes count])]).all = [ruleOfOnes count] := rfl
  obtain ⟨-, -, -, -, -, listed, -⟩ := registry_views_agree_iff [(122, [ruleOfOnes 4300])]
  obtain ⟨-, -, -, -, -, unlisted, -⟩ := registry_views_agree_iff [(122, [ruleOfOnes 4301])]
  refine ⟨(listed .naming).mpr ?_, ?_, ?_⟩
  · intro rule among
    rw [held, List.mem_singleton] at among
    subst among
    exact fun long => absurd ((ruleOfOnes_overlong_iff (by decide)).mp long) (by decide)
  · rw [held]
    exact List.mem_singleton_self _
  · intro answered
    refine (unlisted .naming).mp answered (ruleOfOnes 4301) ?_
      ((ruleOfOnes_overlong_iff (by decide)).mpr (by decide))
    rw [held]
    exact List.mem_singleton_self _

end ApiReview
