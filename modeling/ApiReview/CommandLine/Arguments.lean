import ApiReview.Text.Basic

/-!
Arguments of a command: options, which may have values, and operands. A long option has its value
behind an equals sign or in the next argument; short ones may stand together, and the rest behind
one with a value is its value. Behind `--` there are operands only.
-/

set_option autoImplicit false

namespace ApiReview

open ApiReview.Text

/-- An option that a command knows. -/
structure OptionForm where
  /-- The name by which the command asks for it. -/
  name : String
  long : String
  short? : Option Char := none
  hasValue : Bool := true

/-- An option that is given, by its name, with its value. -/
structure GivenOption where
  name : String
  value : String := ""
  deriving DecidableEq, Repr

/-- The options and operands of a command. -/
structure Arguments where
  options : List GivenOption := []
  operands : List String := []

namespace Arguments

/-- The values of an option, in the order given. -/
def values (arguments : Arguments) (name : String) : List String :=
  (arguments.options.filter fun option => option.name == name).map (·.value)

def value? (arguments : Arguments) (name : String) : Option String :=
  (arguments.values name).getLast?

def has (arguments : Arguments) (name : String) : Bool :=
  arguments.options.any fun option => option.name == name

def withOption (option : GivenOption) (arguments : Arguments) : Arguments :=
  { arguments with options := option :: arguments.options }

/-- The value of an option: what is attached, or the next argument. -/
def valueFrom? (attached? : Option String) (behind : List String) :
    Option (String × List String) :=
  match attached?, behind with
  | some value, behind => some (value, behind)
  | none, value :: behind => some (value, behind)
  | none, [] => none

/-- The option that a form and an attached value make, and the arguments behind it. -/
def given? (form : OptionForm) (attached? : Option String) (behind : List String) :
    Option (GivenOption × List String) :=
  if form.hasValue then
    (valueFrom? attached? behind).map fun (value, behind) => (⟨form.name, value⟩, behind)
  else if attached?.isSome then none
  else some (⟨form.name, ""⟩, behind)

/-- The short options that stand together in an argument. -/
def shortOptions? (forms : List OptionForm) (behind : List String) :
    List Char → Option (List GivenOption × List String)
  | [] => some ([], behind)
  | c :: rest => do
    let form ← forms.find? fun form => form.short? == some c
    if form.hasValue then
      let attached? := if rest.isEmpty then none else some (String.ofList rest)
      let (option, behind) ← given? form attached? behind
      some ([option], behind)
    else
      let (options, behind) ← shortOptions? forms behind rest
      some (⟨form.name, ""⟩ :: options, behind)

/-- The name of a long option in an argument, and the value attached to it. -/
def longParts (argument : List Char) : String × Option String :=
  match splitFirst? ['='] argument with
  | some (name, value) => (String.ofList name, some (String.ofList value))
  | none => (String.ofList argument, none)

def optionsOf? (forms : List OptionForm) (argument : List Char) (behind : List String) :
    Option (List GivenOption × List String) :=
  let (name, attached?) := longParts argument
  match forms.find? fun form => form.long == name with
  | some form => (given? form attached? behind).map fun (option, behind) => ([option], behind)
  | none =>
    match argument with
    | '-' :: '-' :: _ => none
    | argument => shortOptions? forms behind (argument.drop 1)

def isOption : List Char → Bool
  | '-' :: _ :: _ => true
  | _ => false

/-- Reads arguments. Where options end at the first operand, all behind it are operands. -/
def readFrom? (forms : List OptionForm) (mixed : Bool) :
    Nat → List String → Option Arguments
  | 0, _ => none
  | _ + 1, [] => some {}
  | fuel + 1, argument :: behind =>
    if argument == "--" then some { operands := behind }
    else if isOption argument.toList then do
      let (options, behind) ← optionsOf? forms argument.toList behind
      let arguments ← readFrom? forms mixed fuel behind
      some { arguments with options := options ++ arguments.options }
    else if mixed then do
      let arguments ← readFrom? forms mixed fuel behind
      some { arguments with operands := argument :: arguments.operands }
    else some { operands := argument :: behind }

def read? (forms : List OptionForm) (mixed : Bool) (arguments : List String) : Option Arguments :=
  readFrom? forms mixed (arguments.length + 1) arguments

end Arguments

end ApiReview
