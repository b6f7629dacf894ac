import ApiReview.Files.SpecFile
import ApiReview.Validation.Records

/-!
Files with the options of a review.
-/

set_option autoImplicit false

namespace ApiReview

/-- Why a file does not hold options. -/
inductive SettingsFileError
  | unreadable (file : FileName)
  | noObject (file : FileName)
  | invalid (file : FileName) (problems : List Problem)
  deriving DecidableEq, Repr

def SettingsFileError.message : SettingsFileError → String
  | .unreadable file => "Cannot read config " ++ file.text
  | .noObject file => "Config " ++ file.text ++ " must be a mapping"
  | .invalid file _ => "Invalid config " ++ file.text

namespace SettingsFile

def isName : Key → Bool
  | .str _ => true
  | _ => false

/-- Loads the options of a file; an empty one leaves all as usual. -/
def load (tree : FileTree) (file : FileName) : Except (LoadError SettingsFileError) Settings := do
  let content ← tree.readFor file (.unreadable file)
  let document ← Yaml.readFor content (SettingsFileError.unreadable file)
  match document.toNode.orEmpty with
  | .object options =>
    if options.all fun (key, _) => isName key then
      match Checker.settings (.object options) with
      | .valid settings => .ok settings
      | .invalid problems => .error (.refused (.invalid file problems))
    else .error (.fault .wrongKind)
  | _ => .error (.refused (.noObject file))

end SettingsFile

end ApiReview
