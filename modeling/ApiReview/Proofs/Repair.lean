import ApiReview.CommandLine.Run
import ApiReview.Proofs.Patch.Indistinct
import ApiReview.Proofs.Review.Calls
import ApiReview.Proofs.Rules.Findings

/-! Repair in rounds. The rounds before the last each applied a fix and changed the
document. After the last, either the limit is reached, or no fix was applied, or the
document compares as it was before. A document that a round leaves as it is but for
the numbers of its cells is settled: every further round does the same again. -/

set_option autoImplicit false

namespace ApiReview

/-! ## Failures of rules -/

section Failures

variable {facts : ReviewFacts} {turns : List Turn} {reviewer : Reviewer} {spec : Node}
  {specPath? : Option String} {id location : String} {cause : Fault}

theorem ReviewFacts.answer_ne_rule (quiet : facts.settings.onRuleError ≠ .raise) (turn : Turn) :
    facts.answer turn ≠ .error (.rule id location cause) := by
  intro failed
  cases turn with
  | error fault => cases failed
  | ok call =>
      rw [answer, Rule.guarded] at failed
      split at failed
      · cases failed
      · split at failed
        · cases failed
        · split at failed
          · next raises => exact quiet raises
          · cases failed
          · cases failed

theorem ReviewFacts.gather_ne_rule (quiet : facts.settings.onRuleError ≠ .raise) :
    facts.gather turns ≠ .error (.rule id location cause) := by
  intro failed
  induction turns with
  | nil => cases failed
  | cons turn rest ih =>
      rcases bind_eq_error_iff.mp failed with here | ⟨found, _, failed⟩
      · exact answer_ne_rule quiet turn here
      · rcases bind_eq_error_iff.mp failed with later | ⟨more, _, impossible⟩
        · exact ih later
        · cases impossible

theorem Reviewer.title?_ne_rule (info : Members) :
    Reviewer.title? info ≠ .error (.rule id location cause) := by
  rw [Reviewer.title?]
  split <;> nofun

theorem Reviewer.review_ne_rule (quiet : reviewer.settings.onRuleError ≠ .raise) :
    reviewer.review spec specPath? ≠ .error (.rule id location cause) := by
  intro failed
  cases derived : ReviewFacts.ofSpec spec reviewer.settings reviewer.vocabulary with
  | error fault =>
      rw [Reviewer.review_of_fault derived] at failed
      cases failed
  | ok facts =>
      have own : facts.settings = reviewer.settings := (ReviewFacts.ofSpec_ok derived).2.1
      rw [Reviewer.review_of_facts derived] at failed
      rcases bind_eq_error_iff.mp failed with gathered | ⟨found, _, failed⟩
      · exact ReviewFacts.gather_ne_rule (own ▸ quiet) gathered
      · rcases bind_eq_error_iff.mp failed with titled | ⟨title?, _, impossible⟩
        · exact Reviewer.title?_ne_rule facts.info titled
        · cases impossible

end Failures

section Rounds

variable {Document : Type} [Editable Document] {reviewer : Reviewer} {specPath? : Option String}
  {session before after final : PatchSession Document} {outcomes last : List FixOutcome}
  {made earlier : List (List FixOutcome)} {alike : Document → Document → Prop} {limit : Nat}
  {isFirst : Bool}

def IsIdle (outcomes : List FixOutcome) : Prop := ∀ outcome ∈ outcomes, outcome.applied = false

theorem not_any_applied_iff : (!outcomes.any (·.applied)) = true ↔ IsIdle outcomes := by
  simp [IsIdle]

/-! ## One round -/

theorem Reviewer.repairOnce_ok (repaired : reviewer.repairOnce specPath? before = .ok (after, outcomes)) :
    ∃ result, reviewer.review (Editable.toNode before.document) specPath? = .ok result ∧
      before.applyFindings result.findings = .ok (after, outcomes) := by
  obtain ⟨result, reviewed, applied⟩ := bind_ok repaired
  exact ⟨result, reviewed, mapError_ok applied⟩

theorem Reviewer.repairOnce_log
    (repaired : reviewer.repairOnce specPath? before = .ok (after, outcomes)) :
    after.log = before.log ++ outcomes := by
  obtain ⟨result, _, applied⟩ := Reviewer.repairOnce_ok repaired
  exact (PatchSession.applyFixes_log applied).1

theorem PatchSession.applyFixes_idle {fixes : List (Fix × String)}
    (run : before.applyFixes fixes = .ok (after, outcomes)) (idle : IsIdle outcomes) :
    after.document = before.document := by
  induction fixes generalizing before outcomes with
  | nil =>
      cases run
      rfl
  | cons entry rest ih =>
      obtain ⟨next, outcome, later, stepped, ran, rfl⟩ := PatchSession.applyFixes_cons_ok run
      obtain ⟨failed, idle⟩ := List.forall_mem_cons.mp idle
      rw [ih ran idle, (PatchSession.applyFix_ok stepped).2.eq_of_not_applied failed]

theorem Reviewer.repairOnce_idle
    (repaired : reviewer.repairOnce specPath? before = .ok (after, outcomes))
    (idle : IsIdle outcomes) : after.document = before.document := by
  obtain ⟨result, _, applied⟩ := Reviewer.repairOnce_ok repaired
  exact PatchSession.applyFixes_idle applied idle

theorem Indistinct.repairOnce {other : PatchSession Document} (indistinct : Indistinct alike)
    (same : alike session.document other.document) (reviewer : Reviewer)
    (specPath? : Option String) :
    Agree (fun result twin => alike result.1.document twin.1.document ∧ result.2 = twin.2)
      (reviewer.repairOnce specPath? session) (reviewer.repairOnce specPath? other) := by
  rw [Reviewer.repairOnce, Reviewer.repairOnce, indistinct.shows same]
  refine Agree.bind_same fun result => Agree.mapError ?_
  exact indistinct.applyFixes same _

/-- Another round has the given outcomes and leaves a related document. -/
def Reviewer.Settled (reviewer : Reviewer) (specPath? : Option String)
    (alike : Document → Document → Prop) (session : PatchSession Document)
    (outcomes : List FixOutcome) : Prop :=
  ∃ again, reviewer.repairOnce specPath? session = .ok (again, outcomes) ∧
    alike session.document again.document

/-- A round that leaves a document that cannot be told apart from the one before is made again as
it is. -/
theorem Reviewer.settled_of_alike (indistinct : Indistinct alike)
    (repaired : reviewer.repairOnce specPath? before = .ok (after, outcomes))
    (same : alike before.document after.document) :
    reviewer.Settled specPath? alike after outcomes := by
  have agree := indistinct.repairOnce same reviewer specPath?
  rw [repaired] at agree
  obtain ⟨⟨again, repeated⟩, ran, reached, rfl⟩ := agree.exists_ok
  exact ⟨again, ran, reached⟩

theorem Reviewer.repairOnce_ne_rule {id location : String} {cause : Fault}
    (quiet : reviewer.settings.onRuleError ≠ .raise) :
    reviewer.repairOnce specPath? session ≠ .error (.rule id location cause) := by
  intro failed
  rcases bind_eq_error_iff.mp failed with reviewed | ⟨result, _, failed⟩
  · exact Reviewer.review_ne_rule quiet reviewed
  · obtain ⟨fault, _, impossible⟩ := mapError_eq_error_iff.mp failed
    cases impossible

/-! ## Rounds up to a limit -/

/-- Rounds one after the other with their outcomes, each of which applied a fix and changed the
document. -/
inductive Reviewer.Course (reviewer : Reviewer) (specPath? : Option String) :
    PatchSession Document → List (List FixOutcome) → PatchSession Document → Prop where
  | done (session : PatchSession Document) : Course reviewer specPath? session [] session
  | round {session after final : PatchSession Document} {outcomes : List FixOutcome}
      {later : List (List FixOutcome)} :
      reviewer.repairOnce specPath? session = .ok (after, outcomes) →
      ¬ IsIdle outcomes →
      Editable.same after.document session.document = .ok false →
      Course reviewer specPath? after later final →
      Course reviewer specPath? session (outcomes :: later) final

theorem Reviewer.Course.log (course : reviewer.Course specPath? session made final) :
    final.log = session.log ++ made.flatten := by
  induction course with
  | done session => simp
  | round repaired _ _ _ ih =>
      rw [ih, Reviewer.repairOnce_log repaired, List.flatten_cons, List.append_assoc]

theorem Reviewer.isLastRound_eq_false
    (follows : isLastRound false isFirst before after outcomes = .ok false) :
    ¬ IsIdle outcomes ∧ Editable.same after.document before.document = .ok false := by
  rw [Reviewer.isLastRound] at follows
  split at follows
  · cases follows
  · obtain ⟨same, compared, follows⟩ := bind_ok follows
    cases same with
    | true => cases follows
    | false =>
        refine ⟨fun idle => ?_, compared⟩
        rw [not_any_applied_iff.mpr idle] at follows
        cases follows

theorem Reviewer.isLastRound_eq_true
    (ends : isLastRound false isFirst before after outcomes = .ok true) :
    IsIdle outcomes ∨ Editable.same after.document before.document = .ok true := by
  rw [Reviewer.isLastRound] at ends
  split at ends
  · next idle =>
      rw [Bool.false_or, Bool.and_eq_true] at idle
      exact .inl (not_any_applied_iff.mp idle.1)
  · obtain ⟨same, compared, ends⟩ := bind_ok ends
    cases same with
    | true => exact .inr compared
    | false =>
        simp only [Bool.false_eq_true, if_false, Except.ok.injEq] at ends
        exact .inl (not_any_applied_iff.mp ends)

theorem Reviewer.length_rounds_le (reviewer : Reviewer) (specPath? : Option String) (once : Bool)
    (limit : Nat) (isFirst : Bool) (session : PatchSession Document) :
    (reviewer.rounds specPath? once limit isFirst session).1.length ≤ limit := by
  induction limit generalizing isFirst session with
  | zero => exact Nat.le_refl 0
  | succ limit ih =>
      rw [Reviewer.rounds]
      split
      · exact Nat.zero_le _
      · split
        · exact Nat.succ_le_succ (Nat.zero_le _)
        · exact Nat.succ_le_succ (Nat.zero_le _)
        · exact Nat.succ_le_succ (ih false _)

theorem Reviewer.rounds_ne_rule {once : Bool} {id location : String} {cause : Fault}
    (quiet : reviewer.settings.onRuleError ≠ .raise) :
    (reviewer.rounds specPath? once limit isFirst session).2 ≠ .error (.rule id location cause) := by
  induction limit generalizing isFirst session with
  | zero => nofun
  | succ limit ih =>
      rw [Reviewer.rounds]
      split
      · next failure failed =>
          rintro ⟨⟩
          exact Reviewer.repairOnce_ne_rule quiet failed
      · split
        · nofun
        · nofun
        · exact ih

theorem Reviewer.rounds_ok
    (ran : reviewer.rounds specPath? false limit isFirst session = (made, .ok final))
    (wanted : 0 < limit) :
    ∃ earlier before last, made = earlier ++ [last] ∧
      reviewer.Course specPath? session earlier before ∧
      reviewer.repairOnce specPath? before = .ok (final, last) ∧
      (made.length < limit →
        IsIdle last ∨ Editable.same final.document before.document = .ok true) := by
  induction limit generalizing isFirst session made with
  | zero => cases wanted
  | succ limit ih =>
      rw [Reviewer.rounds] at ran
      split at ran
      · cases ran
      · next after outcomes repaired =>
          split at ran
          · cases ran
          · next ends =>
              cases ran
              exact ⟨[], session, outcomes, rfl, .done session, repaired,
                fun _ => Reviewer.isLastRound_eq_true ends⟩
          · next follows =>
              obtain ⟨busy, changed⟩ := Reviewer.isLastRound_eq_false follows
              obtain ⟨rfl, behind⟩ := Prod.mk.inj ran
              rcases Nat.eq_zero_or_pos limit with rfl | room
              · cases behind
                exact ⟨[], session, outcomes, rfl, .done session, repaired,
                  fun early => absurd early (Nat.lt_irrefl 1)⟩
              · obtain ⟨earlier, before, last, split, course, closing, stopped⟩ :=
                  ih (Prod.ext rfl behind) room
                refine ⟨outcomes :: earlier, before, last, congrArg (outcomes :: ·) split,
                  .round repaired busy changed course, closing, fun early => ?_⟩
                exact stopped (Nat.lt_of_succ_lt_succ early)

end Rounds

/-! ## Graphs -/

/-- A graph is the same as before but for the numbers of its cells, and compares as the same; or
nothing was done to it. -/
def Graph.Stays (before after : Graph) : Prop :=
  after = before ∨ Renumbered before after ∧ after.same before = .ok true

section Graphs

variable {reviewer : Reviewer} {specPath? : Option String} {before after : PatchSession Graph}
  {outcomes : List FixOutcome}

theorem Reviewer.size_le_repairOnce
    (repaired : reviewer.repairOnce specPath? before = .ok (after, outcomes)) :
    before.document.cells.size ≤ after.document.cells.size := by
  obtain ⟨result, _, applied⟩ := Reviewer.repairOnce_ok repaired
  exact PatchSession.size_le_applyFixes applied

/-- A round without an applied fix, or behind which the document compares as the same and has but
other numbers, is made again as it is. -/
theorem Reviewer.settled_of_stays
    (repaired : reviewer.repairOnce specPath? before = .ok (after, outcomes))
    (stays : Graph.Stays before.document after.document) :
    reviewer.Settled specPath? Graph.Stays after outcomes := by
  rcases stays with same | ⟨renumbered, compared⟩
  · obtain ⟨again, ran, kept⟩ := Reviewer.settled_of_alike indistinct_eq repaired same.symm
    exact ⟨again, ran, .inl kept.symm⟩
  · obtain ⟨again, ran, further⟩ :=
      Reviewer.settled_of_alike indistinct_renumbered repaired renumbered
    exact ⟨again, ran, .inr ⟨further, Graph.same_of_renumbered further renumbered
      (Reviewer.size_le_repairOnce ran) (Reviewer.size_le_repairOnce repaired) compared⟩⟩

end Graphs

/-! ## Reports -/

namespace Command

variable {tree : FileTree} {file : FileName} {rounds : List (List FixOutcome)}
  {session : PatchSession Graph} {last : List FixOutcome}

def appliedIn (outcomes : List FixOutcome) : Nat := outcomes.countP fun outcome => outcome.applied

def changesIn (outcomes : List FixOutcome) : Nat :=
  (outcomes.flatMap (·.changes)).countP fun outcome => outcome.applied

def totalsLine (rounds : List (List FixOutcome)) : String :=
  toString (rounds.map appliedIn).sum ++ " fixes applied, "
    ++ toString ((rounds.getLastD []).countP fun outcome => !outcome.applied) ++ " failed, "
    ++ toString (rounds.map changesIn).sum ++ " changes"

/-- What a run writes and how it ends after a last round: the document at the end, where it can be
written, with a code that says whether a fix of that round was not applied. -/
structure Saves (tree : FileTree) (file : FileName) (session : PatchSession Graph)
    (last : List FixOutcome) (run : Run) : Prop where
  written : ∀ text, SpecFile.dump tree file session.document = .ok text →
    run.files = [(file, text)] ∧
      (run.ending.exitCode = 1 ↔ ∃ outcome ∈ last, outcome.applied = false)
  unwritten : ∀ fault, SpecFile.dump tree file session.document = .error fault → run.files = []

theorem summary_of_log (log : session.log = rounds.flatten) :
    session.summary.applied = (rounds.map appliedIn).sum ∧
      session.summary.changes = (rounds.map changesIn).sum := by
  rw [PatchSession.summary, log]
  clear log
  induction rounds with
  | nil => exact ⟨rfl, rfl⟩
  | cons outcomes later ih =>
      simp only [List.flatten_cons, List.countP_append, List.flatMap_append, List.map_cons,
        List.sum_cons]
      exact ⟨congrArg _ ih.1, congrArg _ ih.2⟩

theorem reportRepair_lines (log : session.log = rounds.flatten) :
    roundsLines 1 rounds ++ [totalsLine rounds] <+:
      (reportRepair tree (some file) rounds session).lines := by
  have totals := summary_of_log log
  rw [totalsLine, ← totals.1, ← totals.2]
  unfold reportRepair
  dsimp only
  cases SpecFile.textFor file session.document with
  | error fault =>
      dsimp only
      exact List.prefix_refl _
  | ok text =>
      cases tree.obstacle? file with
      | some fault =>
          dsimp only
          exact List.prefix_refl _
      | none =>
          dsimp only
          exact List.prefix_append ..

theorem exitCode_eq_one_iff :
    (if last.countP (fun outcome => !outcome.applied) = 0 then Ending.success
      else Ending.problems).exitCode = 1 ↔ ∃ outcome ∈ last, outcome.applied = false := by
  have unapplied : last.countP (fun outcome => !outcome.applied) = 0 ↔
      ¬ ∃ outcome ∈ last, outcome.applied = false := by
    simp [List.countP_eq_zero]
  by_cases failing : ∃ outcome ∈ last, outcome.applied = false
  · rw [if_neg (mt unapplied.mp (not_not_intro failing))]
    exact iff_of_true rfl failing
  · rw [if_pos (unapplied.mpr failing)]
    exact iff_of_false (by decide) failing

theorem reportRepair_saves {earlier : List (List FixOutcome)} :
    Saves tree file session last (reportRepair tree (some file) (earlier ++ [last]) session) := by
  unfold reportRepair
  rw [List.getLastD_concat]
  dsimp only
  constructor
  · intro text saved
    obtain ⟨content, made, saved⟩ := bind_ok saved
    cases free : tree.obstacle? file with
    | some fault =>
        simp only [free] at saved
        cases saved
    | none =>
        simp only [free] at saved
        cases saved
        simp only [made]
        exact ⟨trivial, exitCode_eq_one_iff⟩
  · intro fault failed
    cases made : SpecFile.textFor file session.document with
    | error _ => rfl
    | ok content =>
        cases free : tree.obstacle? file with
        | some _ => rfl
        | none =>
            simp only [SpecFile.dump, made, bind, Except.bind, free] at failed
            cases failed

section Runs

variable {spec : FileName} {selection : Selection} {limit : Nat} {reviewer : Reviewer}
  {document : Graph}

theorem runFix_ok (configured : reviewerFor tree selection = .ok reviewer)
    (loaded : loadFor tree spec = .ok document)
    (repaired : reviewer.repair (some spec.text) false limit { document } = (rounds, .ok session)) :
    runFix tree spec selection (some file) limit =
      .ok (reportRepair tree (some file) rounds session) := by
  simp only [runFix, configured, loaded, bind, Except.bind, Option.isNone_some, repaired]

theorem runFix_crash {failure : ReviewFailure}
    (configured : reviewerFor tree selection = .ok reviewer)
    (loaded : loadFor tree spec = .ok document)
    (repaired : reviewer.repair (some spec.text) false limit { document } =
      (rounds, .error failure)) :
    runFix tree spec selection (some file) limit =
      .ok { lines := roundsLines 1 rounds, ending := .crash failure.name } := by
  simp only [runFix, configured, loaded, bind, Except.bind, Option.isNone_some, repaired]

/-- A repair with a limit of rounds ends after at most so many. Unless a review or a fix meets a
fault, its report counts what was applied in all rounds, the document at the end is written where
it can be, and the exit code tells whether a fix of the last round was not applied. Rounds before
the last applied a fix and changed the document. Rounds that end before the limit end because no
fix was applied or the document compares as it was; it is settled then, when no fix was applied or
only the numbers of its cells are others. -/
theorem runFix_settles (file : FileName)
    (configured : reviewerFor tree selection = .ok reviewer)
    (loaded : loadFor tree spec = .ok document) (wanted : 0 < limit) :
    ∃ rounds result run,
      reviewer.repair (some spec.text) false limit { document } = (rounds, result) ∧
      runFix tree spec selection (some file) limit = .ok run ∧
      rounds.length ≤ limit ∧ roundsLines 1 rounds <+: run.lines ∧
      ((∃ failure, result = .error failure ∧ run.files = [] ∧ run.ending = .crash failure.name ∧
          (reviewer.settings.onRuleError ≠ .raise → ∀ id location cause,
            failure ≠ .rule id location cause)) ∨
        ∃ earlier before last session, rounds = earlier ++ [last] ∧ result = .ok session ∧
          reviewer.Course (some spec.text) { document } earlier before ∧
          reviewer.repairOnce (some spec.text) before = .ok (session, last) ∧
          (rounds.length < limit →
            IsIdle last ∨ session.document.same before.document = .ok true) ∧
          (rounds.length < limit →
            IsIdle last ∨ Graph.Renumbered before.document session.document →
              reviewer.Settled (some spec.text) Graph.Stays session last) ∧
          roundsLines 1 rounds ++ [totalsLine rounds] <+: run.lines ∧
          Saves tree file session last run) := by
  cases repaired : reviewer.repair (some spec.text) false limit { document } with
  | mk rounds result =>
      have few := reviewer.length_rounds_le (some spec.text) false limit true { document }
      rw [← Reviewer.repair, repaired] at few
      cases result with
      | error failure =>
          refine ⟨rounds, _, _, rfl, runFix_crash configured loaded repaired, few,
            List.prefix_refl _, .inl ⟨failure, rfl, rfl, rfl, ?_⟩⟩
          rintro quiet id location cause rfl
          have failed : (reviewer.rounds (some spec.text) false limit true { document }).2 =
              .error (.rule id location cause) := congrArg Prod.snd repaired
          exact Reviewer.rounds_ne_rule quiet failed
      | ok session =>
          obtain ⟨earlier, before, last, rfl, course, closing, stopped⟩ :=
            Reviewer.rounds_ok repaired wanted
          have log : session.log = (earlier ++ [last]).flatten := by
            rw [Reviewer.repairOnce_log closing, course.log]
            simp
          have lines : roundsLines 1 (earlier ++ [last]) ++ [totalsLine (earlier ++ [last])] <+:
              (reportRepair tree (some file) (earlier ++ [last]) session).lines :=
            reportRepair_lines log
          refine ⟨earlier ++ [last], _, _, rfl, runFix_ok configured loaded repaired, few,
            (List.prefix_append ..).trans lines, .inr ⟨earlier, before, last, session, rfl, rfl,
              course, closing, stopped, ?_, lines, reportRepair_saves⟩⟩
          intro early kept
          -- What the last round left is what a further one finds.
          refine Reviewer.settled_of_stays closing ?_
          rcases kept with idle | renumbered
          · exact .inl (Reviewer.repairOnce_idle closing idle)
          · rcases stopped early with idle | compared
            · exact .inl (Reviewer.repairOnce_idle closing idle)
            · exact .inr ⟨renumbered, compared⟩

end Runs

/-- A file with a document in which reading a resource takes a request body. -/
def requestBodyTree : FileTree :=
  .ofEntries
    [("spec.yaml", .text "openapi: '3'\npaths:\n  /a/b:\n    get:\n      requestBody: 1\n")]

def standardMethodRules : Selection := ⟨none, false, [.standardMethods], []⟩

def standardMethodReviewer : Reviewer := { settings := Settings.select {} standardMethodRules }

theorem runFix_settles_requestBody :
    ∃ session run,
      runFix requestBodyTree (.ofText "spec.yaml") standardMethodRules (some (.ofText "out.yaml")) 3 =
        .ok run ∧
      standardMethodReviewer.Settled (some "spec.yaml") Graph.Stays session [] ∧
      "1 fixes applied, 0 failed, 1 changes" ∈ run.lines ∧
      Saves requestBodyTree (.ofText "out.yaml") session [] run := by
  have test : (loadFor requestBodyTree (.ofText "spec.yaml")).toOption.any (fun document =>
      let repaired := standardMethodReviewer.repair (some "spec.yaml") false 3 { document }
      repaired.2.toOption.isSome &&
        (repaired.1.map (fun outcomes => outcomes.map (·.applied)) == [[true], []] &&
          totalsLine repaired.1 == "1 fixes applied, 0 failed, 1 changes")) = true := by
    decide +kernel
  obtain ⟨document, loaded, test⟩ := ok_of_any test
  have configured : reviewerFor requestBodyTree standardMethodRules = .ok standardMethodReviewer :=
    rfl
  have name : (FileName.ofText "spec.yaml").text = "spec.yaml" := by decide
  obtain ⟨rounds, result, run, repaired, ran, -, -, ended⟩ :=
    runFix_settles (.ofText "out.yaml") configured loaded (by decide : 0 < 3)
  rw [name] at repaired ended
  simp only [repaired, Bool.and_eq_true, beq_iff_eq] at test
  obtain ⟨finished, flags, totals⟩ := test
  rcases ended with ⟨failure, rfl, -⟩ |
    ⟨earlier, before, last, session, rfl, rfl, -, -, -, settled, lines, saves⟩
  · cases finished
  · have early : (earlier ++ [last]).length < 3 := by
      have two := congrArg List.length flags
      rw [List.length_map] at two
      rw [two]
      decide
    obtain rfl : last = [] := by
      have ending := congrArg List.getLast? flags
      simpa using ending
    refine ⟨session, run, ran, settled early (.inl (by simp [IsIdle])), ?_, saves⟩
    rw [← totals]
    exact lines.subset (by simp)

/-- An operation whose object is the content of responses, too. A round takes its request body away
and sets it again behind the other member. The document compares as before, but the next round
looks at another schema, for it is the first one. -/
def sharedOperation : Graph where
  cells := #[
    .object [(.str "paths", 1), (.str "components", 2)],
    .object [(.str "/users/\x7bid\x7d", 3), (.str "/orders", 4), (.str "/items", 5)],
    .object [(.str "responses", 6)],
    .object [(.str "get", 7)],
    .object [(.str "get", 8)],
    .object [(.str "get", 9)],
    .object [(.str "First", 10), (.str "Second", 11)],
    .object [(.str "requestBody", 12), (.str "text/csv", 13)],
    .object [(.str "parameters", 14), (.str "responses", 15)],
    .object [(.str "parameters", 14), (.str "responses", 16)],
    .object [(.str "$ref", 17), (.str "content", 7)],
    .object [(.str "content", 18)],
    .object [(.str "schema", 19)],
    .object [(.str "schema", 20)],
    .list [21],
    .object [(.str "200", 22)],
    .object [(.str "200", 23)],
    .scalar (.str "#/components/responses/Second"),
    .object [(.str "requestBody", 33)],
    .object [(.str "properties", 24)],
    .object [(.str "type", 35)],
    .object [(.str "name", 25), (.str "in", 26), (.str "schema", 27)],
    .object [(.str "$ref", 28)],
    .object [(.str "content", 7)],
    .object [(.str "next_page_token", 29)],
    .scalar (.str "page_size"),
    .scalar (.str "query"),
    .object [(.str "maximum", 30)],
    .scalar (.str "#/components/responses/First"),
    .object [(.str "type", 31), (.str "nullable", 32)],
    .scalar (.int 100),
    .scalar (.str "string"),
    .scalar (.bool true),
    .object [(.str "schema", 34)],
    .object [(.str "type", 35)],
    .scalar (.str "object")]
  root := 0

/-- The rules about pages and standard methods, with a vocabulary of nouns. -/
def pageReviewer : Reviewer where
  settings := { categories? := some [.pagination, .standardMethods] }
  vocabulary :=
    { isVerb := fun _ => false, isNoun := fun _ => true, isUncountable := fun _ => false
      pluralize := fun word => word ++ "s"
      singularize := fun word => String.ofList word.toList.dropLast }

example :
    (match pageReviewer.repair none false 3 { document := sharedOperation } with
      | (rounds, .ok session) =>
        rounds.length == 1 && (pageReviewer.repairOnce none session).toOption.any
          fun (again, _) => (Graph.same again.document session.document).toOption == some false
      | _ => false) = true := by
  decide +kernel

end Command

end ApiReview
