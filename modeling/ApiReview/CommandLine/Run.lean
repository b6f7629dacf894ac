import ApiReview.CommandLine.Command
import ApiReview.Files.SettingsFile
import ApiReview.Repair

/-!
Running commands over the files that there are. A run says what it prints, what it writes and how it
ends, and does nothing else.
-/

set_option autoImplicit false

namespace ApiReview

/-- How a run ends. -/
inductive Ending
  | success
  /-- Findings count as errors, or fixes were not applied. -/
  | problems
  /-- Input or output is not as it has to be. -/
  | refused (message : String)
  /-- The arguments make no command. -/
  | usage
  /-- Something of a shape that nobody expected, by the name of the fault. -/
  | crash (name : String)
  deriving DecidableEq, Repr

def Ending.exitCode : Ending → Nat
  | .success => 0
  | .problems => 1
  | .refused _ => 2
  | .usage => 2
  | .crash _ => 1

/-- What a run does. -/
structure Run where
  /-- Lines for the output. -/
  lines : List String := []
  /-- Lines for the side channel. -/
  notes : List String := []
  /-- Files to write, with their texts. -/
  files : List (FileName × String) := []
  ending : Ending := .success

/-- The run that only ends. -/
def Run.ended (ending : Ending) : Run := { ending }

def ReviewFailure.name : ReviewFailure → String
  | .fault cause => cause.name
  | .rule .. => "RuleExecutionError"
  | .titleNotText => "ValidationError"

def LoadError.ending {Refusal : Type} (message : Refusal → String) : LoadError Refusal → Ending
  | .refused refusal => .refused (message refusal)
  | .fault cause => .crash cause.name

def unwritable (file : FileName) : Fault → Ending
  | .badValue => .crash Fault.badValue.name
  | _ => .refused ("Cannot write " ++ file.text)

def Settings.select (settings : Settings) (selection : Selection) : Settings :=
  { settings with
    strict := settings.strict || selection.strict
    categories? :=
      if selection.categories.isEmpty then settings.categories? else some selection.categories
    skipRules := settings.skipRules ++ selection.skipRules }

namespace Command

def reviewerFor (tree : FileTree) (selection : Selection) : Except Ending Reviewer := do
  let settings : Settings ←
    match selection.config? with
    | none => .ok {}
    | some file =>
      (SettingsFile.load tree file).mapError (LoadError.ending SettingsFileError.message)
  .ok { settings := settings.select selection }

def loadFor (tree : FileTree) (file : FileName) : Except Ending Graph :=
  (SpecFile.load tree file).mapError (LoadError.ending SpecFileError.message)

def summaryLine (summary : Summary) : String :=
  toString summary.errors ++ " errors, " ++ toString summary.warnings ++ " warnings, "
    ++ toString summary.suggestions ++ " suggestions"

def reviewEnding (result : ReviewResult) : Ending :=
  if result.hasErrors then .problems else .success

/-- Prints the result of a review, and writes it to a file if there is one. -/
def report (tree : FileTree) (output? : Option FileName) (result : ReviewResult) (text : String) :
    Run :=
  let run : Run := {
    lines := [text]
    notes := [summaryLine result.summary]
    ending := reviewEnding result }
  match output? with
  | none => run
  | some file =>
    match tree.obstacle? file with
    | some fault => .ended (unwritable file fault)
    | none =>
      { run with
        notes := ("Result saved to " ++ file.text) :: run.notes
        files := [(file, text ++ "\n")] }

def outcomeLine (outcome : FixOutcome) : String :=
  let label := outcome.ruleId ++ " (" ++ outcome.kind.name ++ ")"
  if outcome.applied then "  fixed   " ++ label
  else "  failed  " ++ label ++ ": " ++ outcome.error?.getD Node.null.display

def roundLines (number : Nat) (outcomes : List FixOutcome) : List String :=
  let applied := outcomes.countP fun outcome => outcome.applied
  ("Pass " ++ toString number ++ ": " ++ toString applied ++ "/" ++ toString outcomes.length
    ++ " fixes applied") :: outcomes.map outcomeLine

def roundsLines : Nat → List (List FixOutcome) → List String
  | _, [] => []
  | number, outcomes :: rest => roundLines number outcomes ++ roundsLines (number + 1) rest

/-- Prints what became of the fixes in some rounds, and writes the repaired document to a file if
there is one. -/
def reportRepair (tree : FileTree) (output? : Option FileName) (rounds : List (List FixOutcome))
    (session : PatchSession Graph) : Run :=
  let failed := (rounds.getLastD []).countP fun outcome => !outcome.applied
  let summary := session.summary
  let lines := roundsLines 1 rounds ++
    [toString summary.applied ++ " fixes applied, " ++ toString failed ++ " failed, "
      ++ toString summary.changes ++ " changes"]
  let ending := if failed = 0 then .success else .problems
  match output? with
  | none => { lines, ending }
  | some file =>
    match SpecFile.textFor file session.document with
    | .error fault => { lines, ending := .crash fault.name }
    | .ok text =>
      match tree.obstacle? file with
      | some fault => { lines, ending := unwritable file fault }
      | none =>
        { lines := lines ++ ["Patched spec saved to " ++ file.text]
          files := [(file, text)]
          ending }

def padded (width : Nat) (text : String) : String :=
  text ++ String.ofList (List.replicate (width - text.length) ' ')

def ruleLine (rule : Rule) : String :=
  String.intercalate " "
    [padded 32 rule.id, padded 10 rule.severity.name, padded 16 rule.category.name, rule.name]

def runReview (tree : FileTree) (spec : FileName) (selection : Selection)
    (output? : Option FileName) : Except Ending Run := do
  let reviewer ← reviewerFor tree selection
  let document ← loadFor tree spec
  let result ← (reviewer.review document.toNode (some spec.text)).mapError fun failure =>
    Ending.crash failure.name
  .ok (report tree output? result (Json.indented result.toNode))

def runFix (tree : FileTree) (spec : FileName) (selection : Selection)
    (output? : Option FileName) (maxPasses : Nat) : Except Ending Run := do
  let reviewer ← reviewerFor tree selection
  let document ← loadFor tree spec
  let (rounds, result) :=
    reviewer.repair (some spec.text) output?.isNone maxPasses { document := document }
  match result with
  | .ok session => .ok (reportRepair tree output? rounds session)
  | .error failure => .ok { lines := roundsLines 1 rounds, ending := .crash failure.name }

/-- Lists rules, of some categories if any are named. -/
def runRules (categories : List Category) : Run where
  lines :=
    (Registry.standard.all.filter fun rule =>
      categories.isEmpty || categories.contains rule.category).map ruleLine

def run (command : Command) (tree : FileTree) : Run :=
  match tree.hasFiles command.inputs with
  | .error fault => .ended (.crash fault.name)
  | .ok false => .ended .usage
  | .ok true =>
    let result :=
      match command with
      | .review spec selection output? => runReview tree spec selection output?
      | .fix spec selection output? maxPasses => runFix tree spec selection output? maxPasses
      | .rules categories => .ok (runRules categories)
    match result with
    | .ok run => run
    | .error ending => .ended ending

end Command

/-- Runs the program with some arguments over the files that there are. -/
def runProgram (tree : FileTree) (arguments : List String) : Run :=
  match Command.read arguments with
  | .ok command => command.run tree
  | .error .help => .ended .success
  | .error .usage => .ended .usage

end ApiReview
