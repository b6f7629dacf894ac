import ApiReview.CommandLine.Arguments
import ApiReview.Files.Name
import ApiReview.Finding
import ApiReview.Number.Integer

/-!
The commands of the program: `review` reports findings, `fix` repairs a document, and `rules` lists
the rules.
-/

set_option autoImplicit false

namespace ApiReview

/-- Which rules run, and how strictly. -/
structure Selection where
  config? : Option FileName
  strict : Bool
  categories : List Category
  skipRules : List String

/-- What the program is asked to do. -/
inductive Command
  | review (spec : FileName) (selection : Selection) (output? : Option FileName)
  | fix (spec : FileName) (selection : Selection) (output? : Option FileName) (maxPasses : Nat)
  | rules (categories : List Category)

/-- Why arguments make no command: they ask for help, or they are wrong. -/
inductive NoCommand
  | help
  | usage
  deriving DecidableEq, Repr

namespace Command

def helpForm : OptionForm := { name := "help", long := "--help", hasValue := false }

def programForms : List OptionForm :=
  [helpForm, { name := "verbose", long := "--verbose", short? := some 'v', hasValue := false }]

def categoryForm : OptionForm := { name := "category", long := "--category" }

def selectionForms : List OptionForm :=
  [helpForm, categoryForm, { name := "strict", long := "--strict", hasValue := false },
   { name := "skip-rule", long := "--skip-rule" }, { name := "config", long := "--config" },
   { name := "output", long := "--output", short? := some 'o' }]

def fixForms : List OptionForm :=
  selectionForms ++
    [{ name := "dry-run", long := "--dry-run", hasValue := false },
     { name := "max-passes", long := "--max-passes" }]

def usualPasses : Nat := 3

def categoriesOf? (arguments : Arguments) : Option (List Category) :=
  (arguments.values "category").mapM Category.ofName?

/-- The file with the options of a review, if one is named. -/
def configOf? (arguments : Arguments) : Option (Option FileName) :=
  match arguments.value? "config" with
  | none => some none
  | some text => (FileName.ofFileText? text).map some

def selectionOf? (arguments : Arguments) : Option Selection := do
  some {
    config? := ← configOf? arguments
    strict := arguments.has "strict"
    categories := ← categoriesOf? arguments
    skipRules := arguments.values "skip-rule" }

/-- The number of rounds, of which there is at least one. -/
def passesOf? (arguments : Arguments) : Option Nat :=
  match arguments.value? "max-passes" with
  | none => some usualPasses
  | some text =>
    match Integer.readShort? text.toList with
    | some number => if 1 ≤ number then some number.toNat else none
    | none => none

def ofArguments (forms : List OptionForm) (arguments : List String)
    (command? : Arguments → Option Command) : Except NoCommand Command :=
  match Arguments.read? forms true arguments with
  | none => .error .usage
  | some arguments =>
    if arguments.has "help" then .error .help
    else
      match command? arguments with
      | some command => .ok command
      | none => .error .usage

def specOf? (arguments : Arguments) : Option FileName :=
  match arguments.operands with
  | [spec] => FileName.ofFileText? spec
  | _ => none

def outputOf? (arguments : Arguments) : Option FileName :=
  (arguments.value? "output").map FileName.ofText

def review? (arguments : Arguments) : Option Command := do
  some (.review (← specOf? arguments) (← selectionOf? arguments) (outputOf? arguments))

/-- The command that repairs a document, which is written to a file unless this is a trial. -/
def fix? (arguments : Arguments) : Option Command := do
  let spec ← specOf? arguments
  let selection ← selectionOf? arguments
  let passes ← passesOf? arguments
  if arguments.has "dry-run" then some (.fix spec selection none passes)
  else some (.fix spec selection (some (← outputOf? arguments)) passes)

def rules? (arguments : Arguments) : Option Command := do
  if arguments.operands.isEmpty then some (.rules (← categoriesOf? arguments)) else none

def read (arguments : List String) : Except NoCommand Command :=
  match Arguments.read? programForms false arguments with
  | none => .error .usage
  | some program =>
    if program.has "help" then .error .help
    else
      match program.operands with
      | "review" :: rest => ofArguments selectionForms rest review?
      | "fix" :: rest => ofArguments fixForms rest fix?
      | "rules" :: rest => ofArguments [helpForm, categoryForm] rest rules?
      | _ => .error .usage

/-- The files that have to be there, in the order in which they are looked for. -/
def inputs : Command → List FileName
  | .review spec selection _ | .fix spec selection _ _ => selection.config?.toList ++ [spec]
  | .rules _ => []

def output? : Command → Option FileName
  | .review _ _ output? => output?
  | .fix _ _ output? _ => output?
  | .rules _ => none

end Command

end ApiReview
