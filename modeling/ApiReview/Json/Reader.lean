import ApiReview.Node.Basic
import ApiReview.Number.Decimal

/-!
Reading JSON text. Members keep their order, a repeated key keeps its first place and takes its
last value, and a number with a point or an exponent is a float while any other is a whole number
of any size.
-/

set_option autoImplicit false

namespace ApiReview.Json

open ApiReview.Text

def skipBlanks (text : List Char) : List Char :=
  text.dropWhile fun c => c == ' ' || c == '\n' || c == '\r' || c == '\t'

/-- The character of two surrogates, or of a single unit. -/
def joinSurrogates (high low : Nat) : Char :=
  Char.ofNat (0x10000 + (high - 0xD800) * 0x400 + (low - 0xDC00))

/-- A unit that is no character of its own reads as the replacement character. -/
def charOfUnit (unit : Nat) : Char :=
  if 0xD800 ≤ unit ∧ unit < 0xE000 then Char.ofNat 0xFFFD else Char.ofNat unit

def shortEscape? (c : Char) : Option Char :=
  match c with
  | '"' => some '"'
  | '\\' => some '\\'
  | '/' => some '/'
  | 'b' => some (Char.ofNat 8)
  | 'f' => some (Char.ofNat 12)
  | 'n' => some '\n'
  | 'r' => some '\r'
  | 't' => some '\t'
  | _ => none

/-- Reads the rest of a string behind its opening quote, and the text behind the closing one. -/
def readStringRest : Nat → List Char → Option (List Char × List Char)
  | 0, _ => none
  | _, [] => none
  | _ + 1, '"' :: rest => some ([], rest)
  | fuel + 1, '\\' :: 'u' :: a :: b :: c :: d :: rest => do
    let unit ← Integer.ofHexDigits? [a, b, c, d]
    match rest with
    | '\\' :: 'u' :: e :: f :: g :: h :: more =>
      -- What is not made of digits is no low half, and is refused when it is read on its own.
      let next := (Integer.ofHexDigits? [e, f, g, h]).getD 0
      if 0xD800 ≤ unit ∧ unit < 0xDC00 ∧ 0xDC00 ≤ next ∧ next < 0xE000 then
        let (text, behind) ← readStringRest fuel more
        some (joinSurrogates unit next :: text, behind)
      else
        let (text, behind) ← readStringRest fuel rest
        some (charOfUnit unit :: text, behind)
    | _ =>
      let (text, behind) ← readStringRest fuel rest
      some (charOfUnit unit :: text, behind)
  | fuel + 1, '\\' :: c :: rest => do
    let c ← shortEscape? c
    let (text, behind) ← readStringRest fuel rest
    some (c :: text, behind)
  | fuel + 1, c :: rest => do
    let (text, behind) ← readStringRest fuel rest
    some (c :: text, behind)

def isNumberPart (c : Char) : Bool :=
  Letter.isAsciiDigit c || c == '-' || c == '+' || c == '.' || c == 'e' || c == 'E'

def readNumber? (token : List Char) : Option Node :=
  if token.any fun c => c == '.' || c == 'e' || c == 'E' then (Decimal.read? token).map .float
  else (Integer.read? token).map .int

mutual

def readValue : Nat → List Char → Option (Node × List Char)
  | 0, _ => none
  | fuel + 1, text =>
    match skipBlanks text with
    | '\x7b' :: rest =>
      match skipBlanks rest with
      | '\x7d' :: rest => some (.object [], rest)
      | rest => (readMembers fuel [] rest).map fun (members, rest) => (.object members, rest)
    | '[' :: rest =>
      match skipBlanks rest with
      | ']' :: rest => some (.list [], rest)
      | rest => (readItems fuel rest).map fun (items, rest) => (.list items, rest)
    | '"' :: rest =>
      (readStringRest (rest.length + 1) rest).map fun (text, rest) =>
        (.str (String.ofList text), rest)
    | 't' :: 'r' :: 'u' :: 'e' :: rest => some (.bool true, rest)
    | 'f' :: 'a' :: 'l' :: 's' :: 'e' :: rest => some (.bool false, rest)
    | 'n' :: 'u' :: 'l' :: 'l' :: rest => some (.null, rest)
    | rest =>
      (readNumber? (rest.takeWhile isNumberPart)).map fun number =>
        (number, rest.dropWhile isNumberPart)

def readItems : Nat → List Char → Option (List Node × List Char)
  | 0, _ => none
  | fuel + 1, text => do
    let (item, rest) ← readValue fuel text
    match skipBlanks rest with
    | ',' :: rest =>
      let (items, rest) ← readItems fuel rest
      some (item :: items, rest)
    | ']' :: rest => some ([item], rest)
    | _ => none

def readMembers : Nat → Members → List Char → Option (Members × List Char)
  | 0, _, _ => none
  | fuel + 1, members, text =>
    match skipBlanks text with
    | '"' :: rest => do
      let (name, rest) ← readStringRest (rest.length + 1) rest
      match skipBlanks rest with
      | ':' :: rest =>
        let (value, rest) ← readValue fuel rest
        -- A name that comes again keeps its first place and takes the last value.
        let members := Members.put (.str (String.ofList name)) value members
        match skipBlanks rest with
        | ',' :: rest => readMembers fuel members rest
        | '\x7d' :: rest => some (members, rest)
        | _ => none
      | _ => none
    | _ => none

end

def read? (text : String) : Option Node := do
  let chars := text.toList
  let (node, rest) ← readValue (chars.length + 1) chars
  if (skipBlanks rest).isEmpty then some node else none

end ApiReview.Json
