import ApiReview.Text.Letter

/-!
Letter case of whole texts. Lowering is by character but for the capital sigma, whose form depends
on its neighbours: at the end of a word it becomes the final sigma.
-/

set_option autoImplicit false

namespace ApiReview.Text

/-- Whether the nearest character that case rules do not look through has case. -/
def nearestIsCased : List Char → Bool
  | [] => false
  | c :: rest => if Letter.isCaseIgnorable c then nearestIsCased rest else Letter.isCased c

/-- Whether a letter between `before` (nearest character first) and `after` ends a word. -/
def endsWord (before after : List Char) : Bool := nearestIsCased before && !nearestIsCased after

/-- Lower case of the characters in front of which `before` stands, nearest first. -/
def lowerAfter (before : List Char) : List Char → List Char
  | [] => []
  | c :: rest =>
    let small :=
      if c.toNat == 0x3A3 then [Char.ofNat (if endsWord before rest then 0x3C2 else 0x3C3)]
      else Letter.lower c
    small ++ lowerAfter (c :: before) rest

def lowerChars (text : List Char) : List Char := lowerAfter [] text

def upperChars (text : List Char) : List Char := text.flatMap Letter.upper

/-- The first character in title case, the rest in lower case. -/
def capitalizeChars : List Char → List Char
  | [] => []
  | c :: rest => Letter.title c ++ lowerAfter [c] rest

def lower (text : String) : String := String.ofList (lowerChars text.toList)

def upper (text : String) : String := String.ofList (upperChars text.toList)

/-- The first character in title case, the rest in lower case. -/
def capitalize (text : String) : String := String.ofList (capitalizeChars text.toList)

def startsUpper (text : List Char) : Bool := text.head?.any Letter.isUpper

def startsLower (text : List Char) : Bool := text.head?.any Letter.isLower

end ApiReview.Text
