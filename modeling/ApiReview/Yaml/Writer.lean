import ApiReview.Json.Writer
import ApiReview.Node.Graph
import ApiReview.Yaml.Scalar
import ApiReview.Yaml.Cursor

/-!
Writing documents in block style, with an indent of two. A text is plain when it would be read back
as itself; otherwise it stands in single quotes, or in double quotes when it holds characters that
need escapes. Long lines are folded at single spaces inside texts. A part that stands at several
places is named at the first and referred to at the others.
-/

set_option autoImplicit false

namespace ApiReview.Yaml

open ApiReview.Text

/-- The width behind which lines are folded. -/
def lineWidth : Nat := 80

def newLine (indent : Nat) : List Char := '\n' :: List.replicate indent ' '

/-! ## What a text allows -/

/-- Characters that a text may show outside double quotes, other than a line end. -/
def isShown (c : Char) : Bool :=
  ' ' ≤ c && c ≤ '~' || c.toNat == 0x85 || 0xA0 ≤ c.toNat && c.toNat ≤ 0xD7FF
    || 0xE000 ≤ c.toNat && c.toNat ≤ 0xFFFD && !isByteOrderMark c
    || 0x10000 ≤ c.toNat && c.toNat < 0x10FFFF

def isLineEnd (c : Char) : Bool := isBreak c || c.toNat == 0x85

/-- Characters behind which a mark counts as standing on its own. -/
def isBlankMark (c : Char) : Bool :=
  c == ' ' || c == '\t' || c == '\r' || isLineEnd c || c.toNat == 0

def anyNeighbours (test : Char → Char → Bool) : List Char → Bool
  | c :: d :: rest => test c d || anyNeighbours test (d :: rest)
  | _ => false

def hasLineEnd (text : List Char) : Bool := text.any isLineEnd

/-- Whether a text needs double quotes: for a character that cannot be shown, or a space in front of
a line end or behind it. -/
def needsEscapes (text : List Char) : Bool :=
  text.any (fun c => c != '\n' && !isShown c)
    || anyNeighbours (fun c d => c == ' ' && isLineEnd d || isLineEnd c && d == ' ') text

/-- Whether the start of a text would be read as a mark of structure. -/
def startsWithMark : List Char → Bool
  | [] => false
  | c :: rest =>
    "#,[]\x7b\x7d&*!|>'\"%@\x60".toList.contains c
      || (c == '?' || c == ':' || c == '-') && rest.head?.all isBlankMark
      || "---".toList.isPrefixOf (c :: rest) || "...".toList.isPrefixOf (c :: rest)

/-- Whether a colon or a comment inside a text would be read as a mark of structure. -/
def hasInnerMark (text : List Char) : Bool :=
  anyNeighbours (fun c d => c == ':' && isBlankMark d || isBlankMark c && d == '#') text
    || 1 < text.length && text.getLast? == some ':'

def allowsPlain (text : List Char) : Bool :=
  !text.isEmpty && Plain.kind (String.ofList text) == .text
    && text.head? != some ' ' && text.getLast? != some ' '
    && !hasLineEnd text && !needsEscapes text && !startsWithMark text && !hasInnerMark text

/-! ## Texts -/

/-- A place in the output: how far a line has come, and where folded lines start. -/
structure Margin where
  column : Nat
  indent : Nat
  /-- Whether lines may be folded. -/
  folds : Bool

def Margin.after (margin : Margin) (length : Nat) : Margin :=
  { margin with column := margin.column + length }

def Margin.fresh (margin : Margin) : Margin := { margin with column := margin.indent }

/-- Whether a line has come so far that it is folded at the next space. -/
def Margin.isFull (margin : Margin) : Bool := margin.folds && lineWidth < margin.column

/-- Whether a line is folded at a space: it stands alone inside a text, and the line is full. -/
def Margin.foldsAt (margin : Margin) (before? : Option Char) (behind : List Char) : Bool :=
  margin.isFull && before?.any (· != ' ') && behind.head?.any (· != ' ')

def plainText (margin : Margin) (before? : Option Char) : List Char → List Char
  | [] => []
  | c :: rest =>
    if c == ' ' && margin.foldsAt before? rest then
      newLine margin.indent ++ plainText margin.fresh (some c) rest
    else c :: plainText (margin.after 1) (some c) rest

/-- The text of a scalar in single quotes, behind the opening one and some character. The last
character of a run of line ends gives the line ends and the indent of the next line. -/
def singleQuotedText (margin : Margin) (before? : Option Char) : List Char → List Char
  | [] => ['\'']
  | c :: rest =>
    if c == '\'' then '\'' :: '\'' :: singleQuotedText (margin.after 2) (some c) rest
    else if isLineEnd c then
      let first := if before?.any isLineEnd || c != '\n' then [] else ['\n']
      if rest.head?.any isLineEnd then first ++ c :: singleQuotedText margin (some c) rest
      else
        first ++ c :: (List.replicate margin.indent ' '
          ++ singleQuotedText margin.fresh (some c) rest)
    else if c == ' ' && margin.foldsAt before? rest then
      newLine margin.indent ++ singleQuotedText margin.fresh (some c) rest
    else c :: singleQuotedText (margin.after 1) (some c) rest

def escapeLetters : List (Nat × Char) :=
  [(0, '0'), (7, 'a'), (8, 'b'), (9, 't'), (10, 'n'), (11, 'v'), (12, 'f'), (13, 'r'), (0x1B, 'e'),
   (0x22, '"'), (0x5C, '\\'), (0x85, 'N'), (0xA0, '_'), (0x2028, 'L'), (0x2029, 'P')]

/-- Digits of a number in base sixteen, with capitals. -/
def capitalHex (width number : Nat) : List Char := (hexDigits width number).map Char.toUpper

def isBare (c : Char) : Bool :=
  c != '"' && c != '\\' && !isLineEnd c && !isByteOrderMark c
    && (' ' ≤ c && c ≤ '~' || 0xA0 ≤ c.toNat && c.toNat ≤ 0xFFFD)

def escapedChar (c : Char) : List Char :=
  if isBare c then [c]
  else
    match escapeLetters.lookup c.toNat with
    | some letter => ['\\', letter]
    | none =>
      if c.toNat ≤ 0xFF then '\\' :: 'x' :: capitalHex 2 c.toNat
      else if c.toNat ≤ 0xFFFF then '\\' :: 'u' :: capitalHex 4 c.toNat
      else '\\' :: 'U' :: capitalHex 8 c.toNat

/-- The text of a scalar in double quotes, behind the opening one. A folded line ends in a
backslash, and a space at the start of the next is escaped. -/
def doubleQuotedText (margin : Margin) (atStart afterEscape : Bool) : List Char → List Char
  | [] => ['"']
  | c :: rest =>
    let inside := !atStart && !rest.isEmpty
    if isBare c then
      let guard := if c == ' ' then ['\\'] else []
      if inside && (c == ' ' || afterEscape) && margin.isFull then
        '\\' :: newLine margin.indent ++ guard
          ++ c :: doubleQuotedText (margin.fresh.after (guard.length + 1)) false false rest
      else c :: doubleQuotedText (margin.after 1) false false rest
    else
      let shown := escapedChar c
      let behind := margin.after shown.length
      let guard := if rest.head? == some ' ' then ['\\'] else []
      if inside && behind.folds && lineWidth + 1 < behind.column then
        shown ++ '\\' :: newLine margin.indent ++ guard
          ++ doubleQuotedText (margin.fresh.after guard.length) false true rest
      else shown ++ doubleQuotedText behind false true rest

def stringText (margin : Margin) (text : String) : List Char :=
  let chars := text.toList
  if allowsPlain chars then plainText margin none chars
  else if !needsEscapes chars then '\'' :: singleQuotedText (margin.after 1) none chars
  else '"' :: doubleQuotedText (margin.after 1) true false chars

/-- The text of a number with a point, whose mantissa always has one. -/
def realText (number : Binary64) : List Char :=
  match number.value with
  | .undefined => ".nan".toList
  | .infinite negative => (if negative then "-.inf" else ".inf").toList
  | .finite .. =>
    let text := number.text.toList
    if text.contains '.' then text
    else text.flatMap fun c => if c == 'e' then ['.', '0', 'e'] else [c]

/-- The text of a scalar; lists and objects are not scalars, but empty ones are written alike. -/
def scalarText (margin : Margin) : Node → List Char
  | .null => "null".toList
  | .bool flag => (if flag then "true" else "false").toList
  | .int number => (toString number).toList
  | .float number => realText number
  | .str text => stringText margin text
  | .time moment => plainText margin none moment.text.toList
  | .list _ => ['[', ']']
  | .object _ => ['\x7b', '\x7d']

/-! ## Layouts -/

/-- A document as it is written. A part that stands at several places has a mark at the first, which
refers to it at the others. -/
inductive Layout
  | scalar (mark? : Option Nat) (value : Node)
  | list (mark? : Option Nat) (items : List Layout)
  | object (mark? : Option Nat) (members : List (Key × Layout))
  | reference (mark : Nat)

namespace Layout

/-- The layouts of several cells, each made behind the marked cells that are written by then. -/
def each (layout : List Nat → Nat → Layout × List Nat) (written : List Nat) :
    List Nat → List Layout × List Nat
  | [] => ([], written)
  | number :: rest =>
    let (first, written) := layout written number
    let (others, written) := each layout written rest
    (first :: others, written)

/-- The layout of a cell, behind the marked cells that are written already, and those written then.
Marks count the cells that stand at several places. -/
def ofCell (graph : Graph) (shared : List Nat) : Nat → List Nat → Nat → Layout × List Nat
  | 0, written, _ => (.scalar none .null, written)
  | limit + 1, written, number =>
    let mark? := (shared.idxOf? number).map (· + 1)
    match if written.contains number then mark? else none with
    | some mark => (.reference mark, written)
    | none =>
      let written := if mark?.isSome then number :: written else written
      match graph.cell number with
      | .scalar value => (.scalar mark? value, written)
      | .list items =>
        let (layouts, written) := each (ofCell graph shared limit) written items
        (.list mark? layouts, written)
      | .object members =>
        let (layouts, written) := each (ofCell graph shared limit) written (members.map (·.2))
        (.object mark? ((members.map (·.1)).zip layouts), written)

def ofGraph (graph : Graph) : Layout :=
  (ofCell graph graph.sharedCells (graph.cells.size + 1) [] graph.root).1

def isNested : Layout → Bool
  | .list _ items => !items.isEmpty
  | .object _ members => !members.isEmpty
  | _ => false

def mark? : Layout → Option Nat
  | .scalar mark? _ | .list mark? _ | .object mark? _ => mark?
  | .reference _ => none

end Layout

def markName (mark : Nat) : List Char := ("id" ++ paddedDigits 3 mark).toList

/-- What names a part, in front of its lines. -/
def naming (mark : Nat) : List Char := '&' :: markName mark

/-- The text of a part without lines of its own, at a column. -/
def inlineText (column indent : Nat) : Layout → List Char
  | .reference mark => '*' :: markName mark
  | .scalar none value => scalarText ⟨column, indent, true⟩ value
  | .scalar (some mark) value =>
    let name := naming mark
    name ++ ' ' :: scalarText ⟨column + name.length + 1, indent, true⟩ value
  | .list mark? _ => ((mark?.map fun mark => naming mark ++ [' ']).getD []) ++ ['[', ']']
  | .object mark? _ => ((mark?.map fun mark => naming mark ++ [' ']).getD []) ++ ['\x7b', '\x7d']

/-- The length of a key from which it takes a line of its own. -/
def keyLimit : Key → Nat
  | .str _ | .int _ => 123
  | .bool _ | .null => 122
  | .float _ => 121
  | .time _ => 117

/-- Whether a key stands on the line of its value: it is short, not empty and on one line. -/
def isSimpleKey (key : Key) : Bool :=
  let text :=
    match key with
    | .str name => name.toList
    | key => scalarText ⟨0, 0, false⟩ key.toNode
  !text.isEmpty && !hasLineEnd text && text.length < keyLimit key

mutual

/-- The lines of a list or an object from its first column on. -/
def nestedText (indent : Nat) : Layout → List Char
  | .list _ items => itemsText indent items
  | .object _ members => membersText indent members
  | layout => inlineText indent (indent + 2) layout

/-- The lines of items. An item that is named starts on a line of its own. -/
def itemsText (indent : Nat) : List Layout → List Char
  | [] => []
  | item :: rest =>
    let lines :=
      if item.isNested then
        (match item.mark? with
          | some mark => naming mark ++ newLine (indent + 2)
          | none => []) ++ nestedText (indent + 2) item
      else inlineText (indent + 2) (indent + 2) item
    let more := if rest.isEmpty then [] else newLine indent ++ itemsText indent rest
    '-' :: ' ' :: lines ++ more

/-- The lines of a value behind the colon of its key, and behind its name if it has one. The items
of a list are not indented there. -/
def lowerText (indent : Nat) : Layout → List Char
  | .list _ items => newLine indent ++ itemsText indent items
  | .object _ members => newLine (indent + 2) ++ membersText (indent + 2) members
  | _ => []

def membersText (indent : Nat) : List (Key × Layout) → List Char
  | [] => []
  | (key, value) :: rest =>
    let lines :=
      if isSimpleKey key then
        let name := scalarText ⟨indent, indent + 2, false⟩ key.toNode
        name ++ ':' ::
          if value.isNested then
            ((value.mark?.map fun mark => ' ' :: naming mark).getD []) ++ lowerText indent value
          else ' ' :: inlineText (indent + name.length + 2) (indent + 2) value
      else
        let name := scalarText ⟨indent + 2, indent + 2, true⟩ key.toNode
        '?' :: ' ' :: name ++ newLine indent ++ ':' :: ' ' ::
          if value.isNested then
            match value.mark? with
            | some mark => naming mark ++ lowerText indent value
            | none => nestedText (indent + 2) value
          else inlineText (indent + 2) (indent + 2) value
    lines ++ if rest.isEmpty then [] else newLine indent ++ membersText indent rest

end

/-- Whether a document is a plain scalar, behind which its end is marked. -/
def endsOpen : Layout → Bool
  | .scalar _ (.str text) => allowsPlain text.toList
  | .scalar .. => true
  | _ => false

def Layout.text (layout : Layout) : String :=
  let content :=
    if layout.isNested then
      ((layout.mark?.map fun mark => naming mark ++ newLine 0).getD []) ++ nestedText 0 layout
    else inlineText 0 2 layout
  String.ofList (content ++ (if endsOpen layout then "\n...\n" else "\n").toList)

/-- Whether a cell holds a number that has too many digits to be written. -/
def isUnwritable : Shape Nat → Bool
  | .scalar (.int number) => Integer.isUnwritable number
  | .object members => members.any fun (key, _) =>
    match key with
    | .int number => Integer.isUnwritable number
    | _ => false
  | _ => false

def write (graph : Graph) : Except Fault String :=
  if graph.cells.any isUnwritable then .error .badValue else .ok (Layout.ofGraph graph).text

end ApiReview.Yaml
