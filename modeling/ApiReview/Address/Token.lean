import ApiReview.Address.Basic
import ApiReview.Number.Integer

/-!
The tokens of an address text. Blanks, tabs and line feeds between tokens do not count. A name is
bare or quoted; in quotes a backslash stands before the character that is meant.
-/

set_option autoImplicit false

namespace ApiReview.Address

open ApiReview.Text

/-- A token of an address text. -/
inductive Token
  | root
  | current
  | dot
  | comma
  | colon
  | star
  | question
  /-- One `&`, which joins conditions and crosses ways. -/
  | cross
  /-- Two `&`, which join conditions. -/
  | both
  | openBracket
  | closeBracket
  | openParenthesis
  | closeParenthesis
  | relation (relation : Relation)
  | int (number : Int)
  | float (number : Binary64)
  /-- A whole number with too many digits. -/
  | endlessInt
  | bare (word : String)
  | quoted (text : String)
  /-- A mark or word that has a meaning of its own but no place in an address. -/
  | reserved (text : String)
  deriving DecidableEq, Repr

def isWordStart (c : Char) : Bool :=
  Letter.isAsciiUpper c || Letter.isAsciiLower c || c == '_'

def isWordRest (c : Char) : Bool :=
  isWordStart c || Letter.isAsciiDigit c || c == '@' || c == '-'

/-- Reads a quoted name behind its opening mark, and the text behind the closing one. -/
def readQuoted (mark : Char) : List Char → Option (List Char × List Char)
  | [] => none
  | [c] => if c = mark then some ([], []) else none
  | c :: d :: rest =>
    if c = mark then some ([], d :: rest)
    else if c = '\\' then
      if d = '\n' then none
      else (readQuoted mark rest).map fun (text, behind) => (d :: text, behind)
    else (readQuoted mark (d :: rest)).map fun (text, behind) => (c :: text, behind)

/-- Reads a number: digits, and a fraction when digits stand behind the point. -/
def readNumber (negative : Bool) (text : List Char) : Option (Token × List Char) := do
  let whole := text.takeWhile Letter.isDecimal
  let rest := text.dropWhile Letter.isDecimal
  let fraction :=
    match rest with
    | '.' :: digits => digits.takeWhile Letter.isDecimal
    | _ => []
  if fraction.isEmpty && Integer.isTooLong whole then some (.endlessInt, rest)
  else if fraction.isEmpty then
    let number ← Integer.ofDigits? whole
    some (.int (if negative then -Int.ofNat number else Int.ofNat number), rest)
  else
    let digits ← Integer.ofDigits? (whole ++ fraction)
    some (.float (Binary64.ofDecimal negative digits (-Int.ofNat fraction.length)),
      (rest.drop 1).dropWhile Letter.isDecimal)

def wordToken (word : List Char) : Token :=
  let word := String.ofList word
  if word = "where" ∨ word = "wherenot" then .reserved word else .bare word

def readWord (first text : List Char) : Token × List Char :=
  (wordToken (first ++ text.takeWhile isWordRest), text.dropWhile isWordRest)

/-- Reads the token at the front of a text that does not start with a blank. -/
def readToken? : List Char → Option (Token × List Char)
  | [] => none
  | '\'' :: rest =>
    (readQuoted '\'' rest).map fun (text, behind) => (.quoted (String.ofList text), behind)
  | '"' :: rest =>
    (readQuoted '"' rest).map fun (text, behind) => (.quoted (String.ofList text), behind)
  | '$' :: rest => some (.root, rest)
  | '.' :: '.' :: rest => some (.reserved "..", rest)
  | '.' :: rest => some (.dot, rest)
  | ',' :: rest => some (.comma, rest)
  | ':' :: rest => some (.colon, rest)
  | '*' :: rest => some (.star, rest)
  | '?' :: rest => some (.question, rest)
  | '&' :: '&' :: rest => some (.both, rest)
  | '&' :: rest => some (.cross, rest)
  | '[' :: rest => some (.openBracket, rest)
  | ']' :: rest => some (.closeBracket, rest)
  | '(' :: rest => some (.openParenthesis, rest)
  | ')' :: rest => some (.closeParenthesis, rest)
  | '=' :: '~' :: rest => some (.reserved "=~", rest)
  | '=' :: '=' :: rest => some (.relation .equal, rest)
  | '=' :: rest => some (.relation .equal, rest)
  | '!' :: '=' :: rest => some (.relation .unequal, rest)
  | '<' :: '=' :: rest => some (.relation .atMost, rest)
  | '<' :: rest => some (.relation .less, rest)
  | '>' :: '=' :: rest => some (.relation .atLeast, rest)
  | '>' :: rest => some (.relation .greater, rest)
  | '@' :: c :: rest =>
    if isWordStart c then some (readWord ['@', c] rest) else some (.current, c :: rest)
  | '@' :: rest => some (.current, rest)
  | '-' :: c :: rest =>
    if Letter.isDecimal c then readNumber true (c :: rest) else some (.reserved "-", c :: rest)
  | c :: rest =>
    if Letter.isDecimal c then readNumber false (c :: rest)
    else if isWordStart c then some (readWord [c] rest)
    else if "|!+-/".toList.contains c then some (.reserved (String.ofList [c]), rest)
    else none

def skipBlanks (text : List Char) : List Char :=
  text.dropWhile fun c => c == ' ' || c == '\t' || c == '\n'

/-- The tokens of an address text, if it has no other characters. -/
def tokens? (text : List Char) : Option (List Token) :=
  match skipBlanks text with
  | [] => some []
  | c :: rest =>
    (readToken? (c :: rest)).bind fun (token, behind) =>
      if behind.length < text.length then (tokens? behind).map (token :: ·) else none
termination_by text.length

end ApiReview.Address
