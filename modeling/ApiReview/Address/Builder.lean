import ApiReview.Address.Reader

/-!
The texts of addresses. Every fix addresses the document through these builders, so that all
addresses share one small dialect: bare names for the fixed parts of a document, quoted names for
the names that its author chose, and a filter for parameters.
-/

set_option autoImplicit false

namespace ApiReview.Address

open ApiReview.Text

def quotedChar (c : Char) : List Char := if c = '\\' ∨ c = '\'' then ['\\', c] else [c]

def quotedName (name : String) : String :=
  String.ofList ('\'' :: (name.toList.flatMap quotedChar ++ ['\'']))

def member (name : String) : String := "[" ++ quotedName name ++ "]"

def item (index : Nat) : String := "[" ++ toString index ++ "]"

def ofPath (path : String) : String := "$.paths" ++ member path

/-- An operation. Methods are addressed in lower case. -/
def ofOperation (path method : String) : String := ofPath path ++ "." ++ lower method

/-- The parameter list of an operation, or that of the path without a method. -/
def ofParameters (path : String) (method? : Option String) : String :=
  let owner :=
    match method? with
    | some method => if method.isEmpty then ofPath path else ofOperation path method
    | none => ofPath path
  owner ++ ".parameters"

/-- The filter for the parameters with a name, in a location if one is given. -/
def parameterFilter (name : String) (location? : Option String) : String :=
  let location :=
    match location? with
    | some location => if location.isEmpty then [] else ["@.in==" ++ quotedName location]
    | none => []
  "[?(" ++ String.intercalate " & " (("@.name==" ++ quotedName name) :: location) ++ ")]"

def ofParameter (path : String) (method? : Option String) (name : String)
    (location? : Option String) : String :=
  ofParameters path method? ++ parameterFilter name location?

def ofRequestBody (path method : String) : String := ofOperation path method ++ ".requestBody"

def ofResponses (path method : String) : String := ofOperation path method ++ ".responses"

def ofResponse (path method code : String) : String := ofResponses path method ++ member code

def contentSchema (response mediaType : String) : String :=
  response ++ ".content" ++ member mediaType ++ ".schema"

def ofResponseSchema (path method code mediaType : String) : String :=
  contentSchema (ofResponse path method code) mediaType

def ofSchemas : String := "$.components.schemas"

def ofSchema (name : String) : String := ofSchemas ++ member name

def ofProperty (schema name : String) : String := schema ++ ".properties" ++ member name

/-- Whether a name can stand in an address without quotes. -/
def isPlainName : List Char → Bool
  | [] => false
  | first :: rest =>
    isWordStart first && rest.all fun c => isWordStart c || Letter.isAsciiDigit c

/-- The name behind a token of a local reference, where `~1` stands for a slash and `~0` for a
tilde. -/
def unescapeToken (token : List Char) : List Char :=
  replacePairs '~' '0' '~' (replacePairs '~' '1' '/' token)

/-- The names that a local reference leads through, if it is one. -/
def referenceNames? (reference : String) : Option (List String) :=
  match reference.toList with
  | '#' :: '/' :: rest =>
    some ((rest.splitOn '/').map fun token => String.ofList (unescapeToken token))
  | _ => none

/-- The steps through names of which the last is always quoted, the others only if need be. -/
def memberSteps : List String → String
  | [] => ""
  | [name] => member name
  | name :: rest =>
    (if isPlainName name.toList then "." ++ name else member name) ++ memberSteps rest

/-- The address of the part that a local reference means. -/
def ofReference (reference : String) : Except AddressError String :=
  match referenceNames? reference with
  | some names => .ok ("$" ++ memberSteps names)
  | none => .error (.foreignReference reference)

end ApiReview.Address
