/-!
What stops a step over a document: a part of the wrong shape, or a failure that a rule declares.
Faults are kept apart by cause; each has the name and the text under which it is recorded.
-/

set_option autoImplicit false

namespace ApiReview

/-- Why a step could not be taken. -/
inductive Fault
  /-- A member was asked of something that is no object, or text operations of no text. -/
  | notAnObject
  /-- A value of a kind that the step has no meaning for. -/
  | wrongKind
  /-- A member that the step needs is missing. -/
  | missingMember
  /-- A position behind the ends of a list. -/
  | outOfRange
  /-- A value of the right kind that the step cannot use. -/
  | badValue
  /-- A number beyond the range of a register. -/
  | beyondRange
  /-- A step that has a form but no meaning. -/
  | unsupported
  /-- A walk through a document that would never end. -/
  | endless
  /-- A file that does not exist. -/
  | noSuchFile
  /-- A directory where a file is wanted. -/
  | isDirectory
  /-- A file where a directory is wanted. -/
  | notDirectory
  /-- A file whose bytes are no text. -/
  | undecodable
  /-- The failure that a rule declares of itself. -/
  | declared (name text : String)
  deriving DecidableEq, Repr

namespace Fault

/-- The name of the failure that asks for a check a rule does not have. -/
def wrongRuleKindName : String := "WrongRuleKindError"

def name : Fault → String
  | .notAnObject => "AttributeError"
  | .wrongKind => "TypeError"
  | .missingMember => "KeyError"
  | .outOfRange => "IndexError"
  | .badValue => "ValueError"
  | .beyondRange => "OverflowError"
  | .unsupported => "NotImplementedError"
  | .endless => "RecursionError"
  | .noSuchFile => "FileNotFoundError"
  | .isDirectory => "IsADirectoryError"
  | .notDirectory => "NotADirectoryError"
  | .undecodable => "UnicodeDecodeError"
  | .declared name _ => name

/-- The text that a rule gave its failure; faults of other causes have no text of their own. -/
def text? : Fault → Option String
  | .declared _ text => some text
  | _ => none

/-- A failure that no policy covers. -/
def isWrongRuleKind : Fault → Bool
  | .declared name _ => name == wrongRuleKindName
  | _ => false

end Fault

end ApiReview
