import ApiReview.Node.Display

/-!
JSON text of a document: on one line without blanks, or spread over lines with an indent of two.
Characters outside ASCII are written as they are.
-/

set_option autoImplicit false

namespace ApiReview.Json

def escapedChar (c : Char) : List Char :=
  if c = '"' then ['\\', '"']
  else if c = '\\' then ['\\', '\\']
  else if c = '\n' then ['\\', 'n']
  else if c = '\r' then ['\\', 'r']
  else if c = '\t' then ['\\', 't']
  else if c.toNat = 8 then ['\\', 'b']
  else if c.toNat = 12 then ['\\', 'f']
  else if c.toNat < 0x20 then '\\' :: 'u' :: hexDigits 4 c.toNat
  else [c]

def quote (text : String) : String :=
  String.ofList ('"' :: (text.toList.flatMap escapedChar ++ ['"']))

def floatText (number : Binary64) : String := number.textWith "NaN" "Infinity"

def flagText (flag : Bool) : String := if flag then "true" else "false"

def keyName : Key → String
  | .str name => name
  | .int number => toString number
  | .float number => floatText number
  | .bool flag => flagText flag
  | .time moment => moment.exchangeText
  | .null => "null"

/-- The text of a scalar; lists and objects are not scalars. Moments are texts for other
programs. -/
def scalarText : Node → String
  | .null => "null"
  | .bool flag => flagText flag
  | .int number => toString number
  | .float number => floatText number
  | .str text => quote text
  | .time moment => quote moment.exchangeText
  | .list _ => "[]"
  | .object _ => "\x7b\x7d"

mutual

def compact : Node → String
  | .list items => "[" ++ String.intercalate "," (compactItems items) ++ "]"
  | .object members => "\x7b" ++ String.intercalate "," (compactMembers members) ++ "\x7d"
  | node => scalarText node

def compactItems : List Node → List String
  | [] => []
  | item :: rest => compact item :: compactItems rest

def compactMembers : List (Key × Node) → List String
  | [] => []
  | (key, value) :: rest =>
    (quote (keyName key) ++ ":" ++ compact value) :: compactMembers rest

end

def lineBreak (level : Nat) : String := "\n" ++ String.ofList (List.replicate (2 * level) ' ')

/-- Entries of a list or object between its brackets, one a line. -/
def bracketed (opening closing : String) (level : Nat) (entries : List String) : String :=
  if entries.isEmpty then opening ++ closing
  else
    opening ++ lineBreak (level + 1) ++ String.intercalate ("," ++ lineBreak (level + 1)) entries
      ++ lineBreak level ++ closing

mutual

/-- JSON text over several lines, for a value at an indent level. -/
def indentedAt (level : Nat) : Node → String
  | .list items => bracketed "[" "]" level (indentedItems (level + 1) items)
  | .object members => bracketed "\x7b" "\x7d" level (indentedMembers (level + 1) members)
  | node => scalarText node

def indentedItems (level : Nat) : List Node → List String
  | [] => []
  | item :: rest => indentedAt level item :: indentedItems level rest

def indentedMembers (level : Nat) : List (Key × Node) → List String
  | [] => []
  | (key, value) :: rest =>
    (quote (keyName key) ++ ": " ++ indentedAt level value) :: indentedMembers level rest

end

def indented (node : Node) : String := indentedAt 0 node

end ApiReview.Json
