import ApiReview.Node.Basic
import ApiReview.Text.Letter

/-!
The text of a node in messages and composed names. A string on its own is shown as it is; inside
a list or an object it is quoted, with the other quote mark when that saves escapes.
-/

set_option autoImplicit false

namespace ApiReview

open ApiReview.Text

/-- Hexadecimal digits of a number, at least `width` of them. -/
def hexDigits (width number : Nat) : List Char :=
  let digits := Nat.toDigits 16 number
  List.replicate (width - digits.length) '0' ++ digits

def displayedChar (quote c : Char) : List Char :=
  if c = quote ∨ c = '\\' then ['\\', c]
  else if c = '\n' then ['\\', 'n']
  else if c = '\r' then ['\\', 'r']
  else if c = '\t' then ['\\', 't']
  else if Letter.isPrintable c then [c]
  else if c.toNat < 0x100 then '\\' :: 'x' :: hexDigits 2 c.toNat
  else if c.toNat < 0x10000 then '\\' :: 'u' :: hexDigits 4 c.toNat
  else '\\' :: 'U' :: hexDigits 8 c.toNat

/-- A string in quotes: single ones, unless the text has single quotes and no double ones. -/
def quotedDisplay (text : String) : String :=
  let chars := text.toList
  let quote := if chars.contains '\'' && !chars.contains '"' then '"' else '\''
  String.ofList (quote :: (chars.flatMap (displayedChar quote) ++ [quote]))

def flagDisplay (flag : Bool) : String := if flag then "True" else "False"

/-- The spelling of an absent value. -/
def nullDisplay : String := "None"

/-- A key as it stands in a composed name. -/
def Key.display : Key → String
  | .str name => name
  | .int number => toString number
  | .float number => number.text
  | .bool flag => flagDisplay flag
  | .time moment => moment.text
  | .null => nullDisplay

def Key.quoted : Key → String
  | .str name => quotedDisplay name
  | key => key.display

mutual

def Node.quoted : Node → String
  | .null => nullDisplay
  | .bool flag => flagDisplay flag
  | .int number => toString number
  | .float number => number.text
  | .str text => quotedDisplay text
  | .time moment => moment.text
  | .list items => "[" ++ String.intercalate ", " (Node.quotedItems items) ++ "]"
  | .object members => "\x7b" ++ String.intercalate ", " (Node.quotedMembers members) ++ "\x7d"

def Node.quotedItems : List Node → List String
  | [] => []
  | item :: rest => item.quoted :: Node.quotedItems rest

def Node.quotedMembers : List (Key × Node) → List String
  | [] => []
  | (key, value) :: rest => (key.quoted ++ ": " ++ value.quoted) :: Node.quotedMembers rest

end

def Node.display : Node → String
  | .str text => text
  | node => node.quoted

def Node.kindName : Node → String
  | .null => "NoneType"
  | .bool _ => "bool"
  | .int _ => "int"
  | .float _ => "float"
  | .str _ => "str"
  | .time (.date _) => "date"
  | .time (.time ..) => "datetime"
  | .list _ => "list"
  | .object _ => "dict"

end ApiReview
