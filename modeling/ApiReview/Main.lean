import ApiReview.CommandLine.Run

/-!
The program: it looks at the files that its arguments name, runs the command, and does what the run
says.
-/

set_option autoImplicit false

open ApiReview

def lookAt (name : FileName) : IO (Option FileEntry) := do
  try
    return some (FileEntry.ofBytes (← IO.FS.readBinFile name.text))
  catch
    | .noFileOrDirectory .. => return none
    | _ => return some .directory

/-- The names that a command depends on: of its files and of the directories above its output. -/
def namesOf (command : Command) : List FileName :=
  command.inputs ++ command.output?.toList.flatMap fun name =>
    name.resolved :: name.resolved.ancestors

def treeFor (command : Command) : IO FileTree := do
  let mut entries := []
  for name in namesOf command do
    match ← lookAt name with
    | some entry => entries := (name.resolved, entry) :: entries
    | none => pure ()
  return ⟨entries⟩

/-- Writes a file, with the directories above it. -/
def writeFile (name : FileName) (text : String) : IO Unit := do
  IO.FS.createDirAll name.parent.text
  IO.FS.writeFile name.text text

def closingNote? : Ending → Option String
  | .success | .problems => none
  | .refused message => some ("Error: " ++ message)
  | .usage => some "Usage: review SPEC | fix SPEC -o FILE | rules"
  | .crash name => some name

/-- Does what a run says, and gives its exit code. -/
def perform (run : Run) : IO UInt32 := do
  for (name, text) in run.files do
    writeFile name text
  for line in run.lines do
    IO.println line
  for note in run.notes ++ (closingNote? run.ending).toList do
    IO.eprintln note
  return UInt32.ofNat run.ending.exitCode

def main (arguments : List String) : IO UInt32 := do
  match Command.read arguments with
  | .ok command => perform (command.run (← treeFor command))
  | .error .help => perform (.ended .success)
  | .error .usage => perform (.ended .usage)
