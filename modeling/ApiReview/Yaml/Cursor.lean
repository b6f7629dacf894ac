/-!
Places in a text. A cursor knows the text behind it and its line and column, on which the layout of
a document depends.
-/

set_option autoImplicit false

namespace ApiReview.Yaml

/-- A place in a text. -/
structure Cursor where
  rest : List Char
  /-- The number of characters in front. -/
  index : Nat := 0
  line : Nat := 0
  column : Nat := 0

def isBreak (c : Char) : Bool := c == '\n' || c.toNat == 0x2028 || c.toNat == 0x2029

def isSpace (c : Char) : Bool := c == ' ' || c == '\t'

def isGap (c : Char) : Bool := isSpace c || isBreak c

def startsGap (text : List Char) : Bool := text.head?.all isGap

def startsBreak (text : List Char) : Bool := text.head?.all isBreak

/-- The mark of byte order, which has no width. -/
def isByteOrderMark (c : Char) : Bool := c.toNat == 0xFEFF

namespace Cursor

def step (cursor : Cursor) : Cursor :=
  match cursor.rest with
  | [] => cursor
  | c :: rest =>
    if isBreak c then ⟨rest, cursor.index + 1, cursor.line + 1, 0⟩
    else if isByteOrderMark c then ⟨rest, cursor.index + 1, cursor.line, cursor.column⟩
    else ⟨rest, cursor.index + 1, cursor.line, cursor.column + 1⟩

def move : Nat → Cursor → Cursor
  | 0, cursor => cursor
  | count + 1, cursor => move count cursor.step

def head? (cursor : Cursor) : Option Char := cursor.rest.head?

def isAt (cursor : Cursor) (c : Char) : Bool := cursor.head? == some c

def taken (cursor : Cursor) (passes : Char → Bool) : List Char := cursor.rest.takeWhile passes

/-- The place behind the characters ahead that pass a test. -/
def skip (cursor : Cursor) (passes : Char → Bool) : Cursor :=
  cursor.move (cursor.taken passes).length

/-- Whether a mark of three characters that separates documents stands ahead. -/
def isAtMark (cursor : Cursor) (mark : String) : Bool :=
  mark.toList.isPrefixOf cursor.rest && startsGap (cursor.rest.drop 3)

def isAtSeparator (cursor : Cursor) : Bool := cursor.isAtMark "---" || cursor.isAtMark "..."

end Cursor

end ApiReview.Yaml
