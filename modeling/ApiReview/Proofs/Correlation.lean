import Mathlib
import ApiReview.CodeLocation

/-! Correlation as a conversation. The locator is asked one question for each
operation, with all findings of the operation, and every finding gets the answer
to the question that it was part of. This holds in every monad, so whatever a
locator does when it is asked, it is asked these questions in this order. -/

set_option autoImplicit false

namespace ApiReview

variable {findings front : List Finding} {finding : Finding} {key : OperationKey}
  {keys : List OperationKey}

/-- What a locator is asked: the operations of findings in the order in which they come up, each
once and with its findings. -/
def questionsAbout (findings : List Finding) : List (OperationKey × List Finding) :=
  (findings.map Finding.operationKey).eraseDups.map fun key =>
    (key, findings.filter fun finding => finding.operationKey = key)

/-- Of several equal entries only the first is kept. -/
theorem nodup_eraseDups {Entry : Type} [DecidableEq Entry] (entries : List Entry) :
    entries.eraseDups.Nodup := by
  induction entries using List.reverseRecOn with
  | nil => simp
  | append_singleton front entry ih =>
      rw [List.eraseDups_append]
      by_cases known : entry ∈ front
      · have nothing : [entry].removeAll front = [] := by simpa [List.removeAll] using known
        rw [nothing, List.eraseDups_nil, List.append_nil]
        exact ih
      · have fresh : [entry].removeAll front = [entry] := by simpa [List.removeAll] using known
        have single : [entry].eraseDups = [entry] := by simp [List.eraseDups_cons]
        rw [fresh, single]
        refine List.nodup_append.mpr ⟨ih, List.nodup_singleton entry, ?_⟩
        rintro other among last (_ | ⟨_, impossible⟩) rfl
        · exact known (List.mem_eraseDups.mp among)
        · cases impossible

theorem keys_questionsAbout (findings : List Finding) :
    (questionsAbout findings).map (·.1) = (findings.map Finding.operationKey).eraseDups := by
  simp [questionsAbout, Function.comp_def]

theorem mem_questionsAbout {group : List Finding} : (key, group) ∈ questionsAbout findings ↔
    key ∈ findings.map Finding.operationKey ∧
      group = findings.filter fun finding => finding.operationKey = key := by
  rw [questionsAbout, List.mem_map]
  constructor
  · rintro ⟨other, among, same⟩
    cases same
    exact ⟨List.mem_eraseDups.mp among, rfl⟩
  · rintro ⟨known, rfl⟩
    exact ⟨key, List.mem_eraseDups.mpr known, rfl⟩

/-! ## Groups -/

section Groups

variable {group : OperationKey → List Finding}

/-- A finding goes to the end of the group of its operation. -/
theorem addToGroup_of_mem (distinct : keys.Nodup) (known : key ∈ keys) :
    addToGroup key finding (keys.map fun key => (key, group key)) =
      keys.map fun other => (other, if other = key then group other ++ [finding] else group other) := by
  induction keys with
  | nil => cases known
  | cons first keys ih =>
      rw [List.nodup_cons] at distinct
      rw [List.map_cons, addToGroup, List.map_cons]
      by_cases same : first = key
      · have elsewhere : ∀ other ∈ keys, other ≠ key := fun other among clash =>
          distinct.1 (same ▸ clash ▸ among)
        have others : keys.map (fun other =>
            (other, if other = key then group other ++ [finding] else group other)) =
              keys.map fun other => (other, group other) :=
          List.map_congr_left fun other among => by rw [if_neg (elsewhere other among)]
        rw [if_pos same, if_pos same, others]
      · have later : key ∈ keys := (List.mem_cons.mp known).resolve_left (Ne.symm same)
        rw [if_neg same, if_neg same, ih distinct.2 later]

/-- A finding of a new operation opens the last group. -/
theorem addToGroup_of_not_mem (unknown : key ∉ keys) :
    addToGroup key finding (keys.map fun key => (key, group key)) =
      (keys.map fun key => (key, group key)) ++ [(key, [finding])] := by
  induction keys with
  | nil => rfl
  | cons first keys ih =>
      rw [List.mem_cons, not_or] at unknown
      rw [List.map_cons, addToGroup, if_neg (Ne.symm unknown.1), ih unknown.2, List.cons_append]

end Groups

/-- One finding more extends the questions as it extends the groups. -/
theorem questionsAbout_concat (front : List Finding) (finding : Finding) :
    questionsAbout (front ++ [finding]) =
      addToGroup finding.operationKey finding (questionsAbout front) := by
  have distinct : (front.map Finding.operationKey).eraseDups.Nodup := nodup_eraseDups _
  have grown : ∀ key : OperationKey,
      (front ++ [finding]).filter (fun finding => finding.operationKey = key) =
        if key = finding.operationKey
        then front.filter (fun finding => finding.operationKey = key) ++ [finding]
        else front.filter fun finding => finding.operationKey = key := by
    intro key
    rw [List.filter_append]
    by_cases same : key = finding.operationKey
    · simp [same]
    · simp [same, Ne.symm same]
  rw [questionsAbout, List.map_append, List.map_singleton, List.eraseDups_append, questionsAbout]
  simp only [grown]
  by_cases known : finding.operationKey ∈ front.map Finding.operationKey
  · have nothing : [finding.operationKey].removeAll (front.map Finding.operationKey) = [] := by
      simpa [List.removeAll] using known
    rw [nothing, List.eraseDups_nil, List.append_nil,
      addToGroup_of_mem distinct (List.mem_eraseDups.mpr known)]
  · have fresh : [finding.operationKey].removeAll (front.map Finding.operationKey) =
        [finding.operationKey] := by
      simpa [List.removeAll] using known
    have unknown : finding.operationKey ∉ (front.map Finding.operationKey).eraseDups := fun among =>
      known (List.mem_eraseDups.mp among)
    have none_before : front.filter (fun other => other.operationKey = finding.operationKey) = [] := by
      simpa using known
    rw [fresh, addToGroup_of_not_mem unknown, List.map_append]
    refine congrArg₂ _ (List.map_congr_left fun key among => ?_) ?_
    · have different : key ≠ finding.operationKey := fun same => unknown (same ▸ among)
      rw [if_neg different]
    · simp [none_before, List.eraseDups_cons]

/-- The groups of findings are the questions about them. -/
theorem groupByOperation_eq (findings : List Finding) :
    groupByOperation findings = questionsAbout findings := by
  induction findings using List.reverseRecOn with
  | nil => rfl
  | append_singleton front finding ih =>
      rw [questionsAbout_concat, ← ih, groupByOperation, List.foldl_concat, groupByOperation]

/-! ## Answers -/

/-- The findings, each with the answer to the question about its operation. -/
def attachAnswers (findings : List Finding) (answers : List (List CodeLocation)) :
    List LocatedFinding :=
  let located := ((questionsAbout findings).map (·.1)).zip answers
  findings.map fun finding => ⟨finding, (located.lookup finding.operationKey).getD []⟩

theorem lookup_zip {answers : List (List CodeLocation)} (counted : answers.length = keys.length)
    (known : key ∈ keys) : ∃ (position : Nat) (answer : List CodeLocation),
      keys[position]? = some key ∧
      answers[position]? = some answer ∧ (keys.zip answers).lookup key = some answer := by
  induction keys generalizing answers with
  | nil => cases known
  | cons first keys ih =>
      obtain ⟨answer, answers, rfl⟩ : ∃ answer rest, answers = answer :: rest :=
        List.exists_cons_of_length_eq_add_one counted
      by_cases same : first = key
      · subst same
        exact ⟨0, answer, rfl, rfl, List.lookup_cons_self⟩
      · have later : key ∈ keys := (List.mem_cons.mp known).resolve_left (Ne.symm same)
        obtain ⟨position, found, asked, answered, looked⟩ := ih (Nat.succ.inj counted) later
        refine ⟨position + 1, found, asked, answered, ?_⟩
        have test : (key == first) = false := beq_eq_false_iff_ne.mpr (Ne.symm same)
        rw [List.zip_cons_cons, List.lookup_cons, test]
        exact looked

/-- Every finding is there with the answer to the question about its operation. -/
theorem attachAnswers_spec {answers : List (List CodeLocation)}
    (counted : answers.length = (questionsAbout findings).length) :
    (attachAnswers findings answers).map (·.finding) = findings ∧
      ∀ located ∈ attachAnswers findings answers, ∃ (position : Nat) (group : List Finding),
        (questionsAbout findings)[position]? = some (located.finding.operationKey, group) ∧
          answers[position]? = some located.locations := by
  constructor
  · simp [attachAnswers, Function.comp_def]
  · intro located among
    obtain ⟨finding, inside, rfl⟩ := List.mem_map.mp among
    have known : finding.operationKey ∈ (questionsAbout findings).map (·.1) := by
      rw [keys_questionsAbout, List.mem_eraseDups]
      exact List.mem_map_of_mem inside
    obtain ⟨position, answer, asked, answered, looked⟩ :=
      lookup_zip (by rw [counted, List.length_map]) known
    rw [List.getElem?_map] at asked
    obtain ⟨⟨key, group⟩, asked, rfl⟩ := Option.map_eq_some_iff.mp asked
    refine ⟨position, group, asked, ?_⟩
    rw [looked]
    exact answered

/-! ## The conversation -/

section Asking

variable {Asking : Type → Type} [Monad Asking] [LawfulMonad Asking]

/-- Asking for keyed answers is asking for answers and keying them afterwards. -/
theorem mapM_keyed (locate : OperationKey → List Finding → Asking (List CodeLocation))
    (questions : List (OperationKey × List Finding)) :
    (questions.mapM fun (key, group) => do return (key, ← locate key group)) =
      (fun answers => (questions.map (·.1)).zip answers) <$>
        questions.mapM fun (key, group) => locate key group := by
  induction questions with
  | nil => simp
  | cons question questions ih =>
      rw [List.mapM_cons, List.mapM_cons, ih]
      simp

/-- The locator is asked exactly once about each operation that a selected finding is about, in the
order in which the operations come up, with exactly the selected findings of the operation in their
order. Of the answers, the selected findings are given back as they are and in their order, each
with the answer to the question about its operation. A stricter level selects a part of what a
looser one does, in the same order. -/
theorem correlation_asks_once (findings : List Finding)
    (locate : OperationKey → List Finding → Asking (List CodeLocation)) (level : CorrelationLevel) :
    let selected := filterBySeverity findings level.threshold
    let questions := questionsAbout selected
    (questions.map (·.1) = (selected.map Finding.operationKey).eraseDups ∧
      (questions.map (·.1)).Nodup ∧
      ∀ key group, (key, group) ∈ questions ↔
        key ∈ selected.map Finding.operationKey ∧
          group = selected.filter fun finding => finding.operationKey = key) ∧
    correlate findings locate level =
      attachAnswers selected <$> questions.mapM (fun (key, group) => locate key group) ∧
    (∀ answers, answers.length = questions.length →
      (attachAnswers selected answers).map (·.finding) = selected ∧
        ∀ located ∈ attachAnswers selected answers, ∃ (position : Nat) (group : List Finding),
          questions[position]? = some (located.finding.operationKey, group) ∧
            answers[position]? = some located.locations) ∧
    ∀ looser : CorrelationLevel, level.threshold.rank ≤ looser.threshold.rank →
      List.Sublist selected (filterBySeverity findings looser.threshold) := by
  intro selected questions
  refine ⟨⟨keys_questionsAbout selected, ?_, fun _ _ => mem_questionsAbout⟩, ?_,
    fun answers => attachAnswers_spec, ?_⟩
  · rw [keys_questionsAbout]
    exact nodup_eraseDups _
  · rw [correlate, groupByOperation_eq, mapM_keyed, map_eq_pure_bind, map_eq_pure_bind, bind_assoc]
    simp [attachAnswers, selected, questions]
  · intro looser within
    refine List.monotone_filter_right findings fun finding grave => ?_
    rw [decide_eq_true_eq] at grave ⊢
    exact grave.trans within

end Asking

def findingAbout (severity : Severity) (path message : String) : Finding where
  ruleId := "acme/example"
  severity := severity
  category := .naming
  path := path
  message := message

/-- Findings about two operations, of which one goes by three names. -/
def mixedFindings : List Finding :=
  [findingAbout .error "GET /users" "first", findingAbout .warning "POST /users" "second",
    findingAbout .suggestion "GET /teams" "third", findingAbout .warning " get  /users" "fourth",
    findingAbout .error "/users" "fifth"]

/-- A locator that knows no code and notes what it is asked. -/
def notingLocator (key : OperationKey) (group : List Finding) :
    StateM (List (OperationKey × List String)) (List CodeLocation) := do
  modify (· ++ [(key, group.map (·.message))])
  return []

theorem correlation_asks_once_mixed :
    ((correlate mixedFindings notingLocator .moderate).run []).2 =
        [(⟨"GET", "/users"⟩, ["first", "fourth", "fifth"]), (⟨"POST", "/users"⟩, ["second"])] ∧
      (((correlate mixedFindings notingLocator .moderate).run []).1.map fun located =>
        located.finding.message) = ["first", "second", "fourth", "fifth"] := by
  obtain ⟨_, asked, _⟩ := correlation_asks_once mixedFindings notingLocator .moderate
  rw [asked]
  decide +kernel

end ApiReview
