import ApiReview.Yaml.ScalarText
import ApiReview.Yaml.Token

/-!
Cutting a text into tokens. Indents open and close blocks, and a colon turns what stands in front
of it on its line into a key: the tokens that say so go in front of that key, at which time the
block that the key opens becomes known. Each place where a key may start is remembered, one at
each depth of flow collections.
-/

set_option autoImplicit false

namespace ApiReview.Yaml

open ApiReview.Text

/-- A place where a key may have started. -/
structure KeyStart where
  depth : Nat
  /-- The number of tokens in front of it. -/
  position : Nat
  /-- Whether nothing but a key can stand there. -/
  required : Bool
  index : Nat
  line : Nat
  column : Nat

/-- The state of a lexer between two tokens. -/
structure Lexer where
  cursor : Cursor
  /-- More steps than any token takes, each of which takes a character. -/
  limit : Nat
  /-- The tokens so far, the last one first. -/
  tokens : List Token := []
  count : Nat := 0
  /-- The column of the open block, and those of the blocks around it. -/
  indent : Int := -1
  outer : List Int := []
  /-- How many flow collections are open. -/
  depth : Nat := 0
  /-- Whether a key may start at the next token. -/
  keyAllowed : Bool := true
  starts : List KeyStart := []

/-- The number of characters behind which a place is no start of a key any more. -/
def keyReach : Nat := 1024

namespace Lexer

def inFlow (lexer : Lexer) : Bool := lexer.depth != 0

def push (lexer : Lexer) (token : Token) : Lexer :=
  { lexer with tokens := token :: lexer.tokens, count := lexer.count + 1 }

/-- The lexer with a token put in front of those from a position on. -/
def insertAt (lexer : Lexer) (position : Nat) (token : Token) : Lexer :=
  let behind := lexer.count - position
  { lexer with
    tokens := lexer.tokens.take behind ++ token :: lexer.tokens.drop behind
    count := lexer.count + 1 }

/-- The place ahead, as column of a block. -/
def column (lexer : Lexer) : Int := Int.ofNat lexer.cursor.column

/-- Opens a block at a column to the right of the open one. -/
def openBlock (lexer : Lexer) (column : Int) (position : Nat) (token : Token) : Lexer :=
  if lexer.indent < column then
    { lexer.insertAt position token with indent := column, outer := lexer.indent :: lexer.outer }
  else lexer

def closeBlocks (column : Int) : List Int → Lexer → Lexer
  | [], lexer => lexer
  | around :: outer, lexer =>
    if lexer.indent > column then
      closeBlocks column outer { lexer.push .blockEnd with indent := around, outer := outer }
    else lexer

/-- Closes the blocks to the right of a column, unless a flow collection is open. -/
def unwind (lexer : Lexer) (column : Int) : Lexer :=
  if lexer.inFlow then lexer else closeBlocks column lexer.outer lexer

/-- Forgets starts of keys that are on another line or out of reach. One at which only a key can
stand must not be among them. -/
def dropStale (lexer : Lexer) : Except Failure Lexer :=
  let isStale (start : KeyStart) : Bool :=
    start.line != lexer.cursor.line || lexer.cursor.index - start.index > keyReach
  if lexer.starts.any fun start => isStale start && start.required then .error .malformed
  else .ok { lexer with starts := lexer.starts.filter fun start => !isStale start }

/-- Forgets the start of a key at the depth reached, at which anything must be able to stand. -/
def dropStart (lexer : Lexer) : Except Failure Lexer :=
  if lexer.starts.any fun start => start.depth == lexer.depth && start.required then
    .error .malformed
  else .ok { lexer with starts := lexer.starts.filter fun start => start.depth != lexer.depth }

/-- Remembers the place ahead as one where a key may start. -/
def saveStart (lexer : Lexer) : Except Failure Lexer := do
  if lexer.keyAllowed then
    let lexer ← lexer.dropStart
    let start : KeyStart := {
      depth := lexer.depth
      position := lexer.count
      -- In the column of the open block, what could be a key has to be one.
      required := !lexer.inFlow && lexer.indent == lexer.column
      index := lexer.cursor.index
      line := lexer.cursor.line
      column := lexer.cursor.column }
    .ok { lexer with starts := start :: lexer.starts }
  else .ok lexer

def take (lexer : Lexer) (length : Nat) (token : Token) : Lexer :=
  { lexer.push token with cursor := lexer.cursor.move length }

/-- The place of the next token, behind spaces, comments and line ends, and whether a line ended. -/
def skipToToken : Nat → Cursor → Bool × Cursor
  | 0, cursor => (false, cursor)
  | fuel + 1, cursor =>
    let cursor := cursor.skip (· == ' ')
    let cursor := if cursor.isAt '#' then cursor.skip fun c => !isBreak c else cursor
    match cursor.rest with
    | c :: _ => if isBreak c then (true, (skipToToken fuel cursor.step).2) else (false, cursor)
    | [] => (false, cursor)

/-- Goes to the next token. A line end outside flow collections lets a key start. -/
def advance (lexer : Lexer) : Lexer :=
  let cursor :=
    if lexer.cursor.index == 0 && lexer.cursor.head?.any isByteOrderMark then lexer.cursor.step
    else lexer.cursor
  let (ended, cursor) := skipToToken lexer.limit cursor
  { lexer with cursor, keyAllowed := lexer.keyAllowed || (ended && !lexer.inFlow) }

/-! ## Tokens of one kind -/

/-- Ends all blocks and keys in front of something that belongs to no document. -/
def endContent (lexer : Lexer) : Except Failure Lexer := do
  let lexer ← (lexer.unwind (-1)).dropStart
  .ok { lexer with keyAllowed := false }

def openFlow (lexer : Lexer) (token : Token) : Except Failure Lexer := do
  let lexer ← lexer.saveStart
  .ok { lexer.take 1 token with depth := lexer.depth + 1, keyAllowed := true }

def closeFlow (lexer : Lexer) (token : Token) : Except Failure Lexer := do
  if lexer.depth = 0 then .error .malformed
  else
    let lexer ← lexer.dropStart
    .ok { lexer.take 1 token with depth := lexer.depth - 1, keyAllowed := false }

def flowEntry (lexer : Lexer) : Except Failure Lexer := do
  let lexer ← lexer.dropStart
  .ok { lexer.take 1 .flowEntry with keyAllowed := true }

/-- Opens a block for a mark that stands where a key may start. -/
def openAt (lexer : Lexer) (token : Token) : Except Failure Lexer :=
  if lexer.inFlow then .ok lexer
  else if lexer.keyAllowed then .ok (lexer.openBlock lexer.column lexer.count token)
  else .error .malformed

def blockEntry (lexer : Lexer) : Except Failure Lexer := do
  let lexer ← (← lexer.openAt .blockSequence).dropStart
  .ok { lexer.take 1 .blockEntry with keyAllowed := true }

def key (lexer : Lexer) : Except Failure Lexer := do
  let lexer ← (← lexer.openAt .blockMapping).dropStart
  .ok { lexer.take 1 .key with keyAllowed := !lexer.inFlow }

/-- Starts a value, with which the place remembered at this depth turns out to be a key. -/
def value (lexer : Lexer) : Except Failure Lexer := do
  match lexer.starts.find? fun start => start.depth == lexer.depth with
  | some start =>
    -- A key shows at its colon only, so its mark is put in front of what was read since.
    let lexer := lexer.insertAt start.position .key
    let lexer :=
      if lexer.inFlow then lexer
      else lexer.openBlock (Int.ofNat start.column) start.position .blockMapping
    .ok { lexer.take 1 .value with
          starts := lexer.starts.filter fun other => other.depth != lexer.depth
          keyAllowed := false }
  | none =>
    let lexer ← (← lexer.openAt .blockMapping).dropStart
    .ok { lexer.take 1 .value with keyAllowed := !lexer.inFlow }

def isNamePart (c : Char) : Bool :=
  Letter.isAsciiDigit c || Letter.isAsciiUpper c || Letter.isAsciiLower c || c == '-' || c == '_'

def endsName (c : Char) : Bool :=
  isGap c || ['?', ':', ',', ']', '\x7d', '%', '@', '\x60'].contains c

def named (lexer : Lexer) (token : String → Token) : Except Failure Lexer := do
  let lexer ← lexer.saveStart
  let name := lexer.cursor.step.taken isNamePart
  let lexer := lexer.take (name.length + 1) (token (String.ofList name))
  if name.isEmpty || !lexer.cursor.rest.head?.all endsName then .error .malformed
  else .ok { lexer with keyAllowed := false }

def isTagPart (c : Char) : Bool :=
  isNamePart c || "-;/?:@&=+$,_.!~*'()[]%".toList.contains c

/-- The bytes that the name of a kind writes: its characters, all of one byte, and any others by
number behind percent signs. -/
def tagBytes? : List Char → Option (List UInt8)
  | [] => some []
  | '%' :: high :: low :: rest => do
    let byte ← Integer.ofHexDigits? [high, low]
    some (byte.toUInt8 :: (← tagBytes? rest))
  | '%' :: _ => none
  | c :: rest => (tagBytes? rest).map (c.toNat.toUInt8 :: ·)

/-- The name of a kind at the front of a text, and the number of its characters. -/
def tagName? (text : List Char) : Option (String × Nat) := do
  let written := text.takeWhile isTagPart
  let name ← String.fromUTF8? ⟨(← tagBytes? written).toArray⟩
  if written.isEmpty then none else some (name, written.length)

/-- The handle at the front of a text, and the number of its characters: an exclamation mark, or two
with a name between them that may be empty. -/
def tagHandle? (text : List Char) : Option (String × Nat) :=
  match text with
  | '!' :: ' ' :: _ => some ("!", 1)
  | '!' :: rest =>
    let name := rest.takeWhile isNamePart
    if (rest.drop name.length).head? == some '!' then
      some ("!" ++ String.ofList name ++ "!", name.length + 2)
    else none
  | _ => none

/-- Whether a second exclamation mark follows the one at the front of a text before a space. -/
def hasTagHandle (text : List Char) : Bool :=
  ((text.drop 1).takeWhile fun c => c != ' ' && !isBreak c).contains '!'

/-- The kind that is stated at the front of a text, which is an exclamation mark, and the number of
characters that state it. -/
def statedTag? (text : List Char) : Option (Token × Nat) := do
  if startsGap (text.drop 1) then some (.tag none "!", 1)
  else if (text.drop 1).head? == some '<' then
    let (name, length) ← tagName? (text.drop 2)
    if (text.drop (length + 2)).head? == some '>' then some (.tag none name, length + 3) else none
  else
    let (handle, skipped) ← if hasTagHandle text then tagHandle? text else some ("!", 1)
    let (name, length) ← tagName? (text.drop skipped)
    some (.tag (some handle) name, skipped + length)

def tag (lexer : Lexer) : Except Failure Lexer := do
  let lexer ← lexer.saveStart
  match statedTag? lexer.cursor.rest with
  | none => .error .malformed
  | some (token, length) =>
    let lexer := lexer.take length token
    if !startsSpace lexer.cursor.rest then .error .malformed
    else .ok { lexer with keyAllowed := false }

/-- The version at the front of a text, two numbers with a point between them, and the number of
characters up to its end. -/
def statedVersion? (text : List Char) : Option (Directive × Nat) := do
  let spaces := text.takeWhile (· == ' ')
  let major := (text.drop spaces.length).takeWhile Letter.isAsciiDigit
  let behind := text.drop (spaces.length + major.length)
  let minor := (behind.drop 1).takeWhile Letter.isAsciiDigit
  if behind.head? == some '.' && !minor.isEmpty then
    some (.version (← Integer.ofDigits? major), spaces.length + major.length + 1 + minor.length)
  else none

/-- The handle and the start of names at the front of a text, and the number of characters up to
their end. -/
def statedHandle? (text : List Char) : Option (Directive × Nat) := do
  let spaces := text.takeWhile (· == ' ')
  let (handle, length) ← tagHandle? (text.drop spaces.length)
  let behind := text.drop (spaces.length + length)
  let gap := behind.takeWhile (· == ' ')
  let (start, width) ← tagName? (behind.drop gap.length)
  if gap.isEmpty then none
  else some (.handle handle start, spaces.length + length + gap.length + width)

def directive (lexer : Lexer) : Except Failure Lexer := do
  let lexer ← lexer.endContent
  let name := lexer.cursor.step.taken isNamePart
  let cursor := lexer.cursor.move (name.length + 1)
  let stated? :=
    if name == "YAML".toList then statedVersion? cursor.rest
    else if name == "TAG".toList then statedHandle? cursor.rest
    else some (.other, (cursor.taken fun c => !isBreak c).length)
  match stated? with
  | some (directive, length) =>
    if name.isEmpty || !startsSpace cursor.rest then .error .malformed
    else .ok { lexer.push (.directive directive) with cursor := ← behindLine (cursor.move length) }
  | none => .error .malformed

def scalar (lexer : Lexer) (plain : Bool) (text : List Char) (behind : Cursor) : Lexer :=
  { lexer.push (.scalar plain (String.ofList text)) with cursor := behind }

def blockScalar (lexer : Lexer) (folds : Bool) : Except Failure Lexer := do
  let lexer ← lexer.dropStart
  let (text, behind) ← block folds lexer.indent lexer.limit lexer.cursor.step
  .ok { lexer.scalar false text behind with keyAllowed := true }

def quotedScalar (lexer : Lexer)
    (quoted : Nat → Cursor → Except Failure (List Char × Cursor)) : Except Failure Lexer := do
  let lexer ← lexer.saveStart
  let (text, behind) ← quoted lexer.limit lexer.cursor.step
  .ok { lexer.scalar false text behind with keyAllowed := false }

def plainScalar (lexer : Lexer) : Except Failure Lexer := do
  let lexer ← lexer.saveStart
  let (text, ended, behind) :=
    plainRuns lexer.inFlow (lexer.indent + 1) lexer.limit [] false lexer.cursor
  .ok { lexer.scalar true text behind with keyAllowed := ended }

def startsPlain (inFlow : Bool) : List Char → Bool
  | [] => false
  | c :: rest =>
    if isGap c then false
    else if c == '-' then !startsGap rest
    else if c == '?' || c == ':' then !inFlow && !startsGap rest
    else !"-?:,[]\x7b\x7d#&*!|>'\"%@\x60".toList.contains c

/-- Takes the next token, which starts with a character. -/
def next (lexer : Lexer) (c : Char) (rest : List Char) : Except Failure Lexer := do
  let atStart := lexer.cursor.column == 0
  -- Marks of whole documents count in the first column alone, and before all others.
  if atStart && c == '%' then lexer.directive
  else if atStart && lexer.cursor.isAtMark "---" then
    .ok ((← lexer.endContent).take 3 .documentStart)
  else if atStart && lexer.cursor.isAtMark "..." then
    .ok ((← lexer.endContent).take 3 .documentEnd)
  else if c == '[' then lexer.openFlow .flowSequence
  else if c == '\x7b' then lexer.openFlow .flowMapping
  else if c == ']' then lexer.closeFlow .flowSequenceEnd
  else if c == '\x7d' then lexer.closeFlow .flowMappingEnd
  else if c == ',' then lexer.flowEntry
  else if c == '-' && startsGap rest then lexer.blockEntry
  else if c == '?' && (lexer.inFlow || startsGap rest) then lexer.key
  else if c == ':' && (lexer.inFlow || startsGap rest) then lexer.value
  else if c == '*' then lexer.named .reference
  else if c == '&' then lexer.named .anchor
  else if c == '!' then lexer.tag
  else if c == '|' && !lexer.inFlow then lexer.blockScalar false
  else if c == '>' && !lexer.inFlow then lexer.blockScalar true
  else if c == '\'' then lexer.quotedScalar singleQuoted
  else if c == '"' then lexer.quotedScalar doubleQuoted
  else if startsPlain lexer.inFlow (c :: rest) then lexer.plainScalar
  else .error .malformed

/-- Takes the next token, or what has to come behind the last one. Tells whether the text is at its
end. -/
def proceed (lexer : Lexer) : Except Failure (Lexer × Bool) := do
  let lexer ← lexer.advance.dropStale
  let lexer := lexer.unwind lexer.column
  match lexer.cursor.rest with
  | [] => .ok (← lexer.endContent, true)
  | c :: rest => .ok (← lexer.next c rest, false)

/-- Takes tokens up to the end of the text, or up to where it cannot be cut into tokens. -/
def run : Nat → Lexer → Lexer
  | 0, lexer => lexer.push (.broken .malformed)
  | fuel + 1, lexer =>
    match lexer.proceed with
    | .error failure => lexer.push (.broken failure)
    | .ok (lexer, isDone) => if isDone then lexer else run fuel lexer

end Lexer

def Token.ofText (text : List Char) : List Token :=
  let limit := text.length + 2
  (Lexer.run limit { cursor := { rest := text }, limit }).tokens.reverse

end ApiReview.Yaml
