import ApiReview.Number.Integer
import ApiReview.Yaml.Cursor
import ApiReview.Yaml.Failure

/-!
The texts of scalars in the styles in which a document may write them: plain, in single quotes, in
double quotes, and as a block of lines. Line ends inside a scalar fold: one line end counts as a
space, and of several the first does not count.
-/

set_option autoImplicit false

namespace ApiReview.Yaml

open ApiReview.Text

/-- A line end and those behind it, folded. -/
def folded (first : Char) (more : List Char) : List Char :=
  if first != '\n' then first :: more else if more.isEmpty then [' '] else more

/-! ## Quoted styles -/

/-- Line ends inside quotes, with the spaces around them dropped. No document may end here. -/
def quotedBreaks : Nat → Cursor → Except Failure (List Char × Cursor)
  | 0, _ => .error .malformed
  | fuel + 1, cursor =>
    if cursor.isAtSeparator then .error .malformed
    else
      let cursor := cursor.skip isSpace
      match cursor.rest with
      | c :: _ =>
        if isBreak c then do
          let (more, behind) ← quotedBreaks fuel cursor.step
          .ok (c :: more, behind)
        else .ok ([], cursor)
      | [] => .ok ([], cursor)

/-- Spaces inside quotes, folded when a line ends among them. -/
def quotedGap (fuel : Nat) (cursor : Cursor) : Except Failure (List Char × Cursor) :=
  let spaces := cursor.taken isSpace
  let cursor := cursor.skip isSpace
  match cursor.rest with
  | [] => .error .malformed
  | c :: _ =>
    if isBreak c then do
      let (more, behind) ← quotedBreaks fuel cursor.step
      .ok (folded c more, behind)
    else .ok (spaces, cursor)

/-- The rest of a scalar in single quotes, in which a doubled quote stands for one. -/
def singleQuoted : Nat → Cursor → Except Failure (List Char × Cursor)
  | 0, _ => .error .malformed
  | fuel + 1, cursor =>
    match cursor.rest with
    | [] => .error .malformed
    | '\'' :: '\'' :: _ => do
      let (text, behind) ← singleQuoted fuel (cursor.move 2)
      .ok ('\'' :: text, behind)
    | '\'' :: _ => .ok ([], cursor.step)
    | c :: _ =>
      if isGap c then do
        let (gap, cursor) ← quotedGap (fuel + 1) cursor
        let (text, behind) ← singleQuoted fuel cursor
        .ok (gap ++ text, behind)
      else do
        let (text, behind) ← singleQuoted fuel cursor.step
        .ok (c :: text, behind)

def escapes : List (Char × Nat) :=
  [('0', 0), ('a', 7), ('b', 8), ('t', 9), ('\t', 9), ('n', 10), ('v', 11), ('f', 12), ('r', 13),
   ('e', 0x1B), (' ', 0x20), ('"', 0x22), ('\\', 0x5C), ('/', 0x2F), ('N', 0x85), ('_', 0xA0),
   ('L', 0x2028), ('P', 0x2029)]

def escapeLengths : List (Char × Nat) := [('x', 2), ('u', 4), ('U', 8)]

/-- The character with a number. Halves of surrogate pairs stand for the replacement character, and
beyond the last character there is none; beyond half a register there is not even a number. -/
def charOfNumber (number : Nat) : Except Failure Char :=
  if number ≥ 0x80000000 then .error (.fault .beyondRange)
  else if number > 0x10FFFF then .error (.fault .badValue)
  else if 0xD800 ≤ number ∧ number < 0xE000 then .ok (Char.ofNat 0xFFFD)
  else .ok (Char.ofNat number)

/-- What an escape stands for, and the place behind it. -/
def escape (fuel : Nat) (cursor : Cursor) : Except Failure (List Char × Cursor) :=
  match cursor.rest with
  | [] => .error .malformed
  | c :: rest =>
    match escapes.lookup c, escapeLengths.lookup c with
    | some code, _ => .ok ([Char.ofNat code], cursor.step)
    | none, some length =>
      let digits := rest.take length
      match (if digits.length = length then Integer.ofHexDigits? digits else none) with
      | some number => do .ok ([← charOfNumber number], cursor.move (length + 1))
      | none => .error .malformed
    | none, none =>
      if isBreak c then quotedBreaks fuel cursor.step else .error .malformed

def doubleQuoted : Nat → Cursor → Except Failure (List Char × Cursor)
  | 0, _ => .error .malformed
  | fuel + 1, cursor =>
    match cursor.rest with
    | [] => .error .malformed
    | '"' :: _ => .ok ([], cursor.step)
    | '\\' :: _ => do
      let (part, cursor) ← escape (fuel + 1) cursor.step
      let (text, behind) ← doubleQuoted fuel cursor
      .ok (part ++ text, behind)
    | c :: _ =>
      if isGap c then do
        let (gap, cursor) ← quotedGap (fuel + 1) cursor
        let (text, behind) ← doubleQuoted fuel cursor
        .ok (gap ++ text, behind)
      else do
        let (text, behind) ← doubleQuoted fuel cursor.step
        .ok (c :: text, behind)

/-! ## Plain style -/

/-- Marks of flow collections, which end a plain scalar there. -/
def isFlowMark (c : Char) : Bool := [',', '?', '[', ']', '\x7b', '\x7d'].contains c

/-- Whether the colon in front of a text ends a plain scalar. -/
def colonEnds (inFlow : Bool) (behind : List Char) : Bool :=
  startsGap behind
    || inFlow && behind.head?.any fun c => isFlowMark c && c != '?'

def plainRun (inFlow : Bool) : List Char → List Char
  | [] => []
  | c :: rest =>
    if isGap c || c == ':' && colonEnds inFlow rest || inFlow && isFlowMark c then []
    else c :: plainRun inFlow rest

/-- Line ends inside a plain scalar; nothing when a document ends among them. -/
def plainBreaks : Nat → Cursor → Option (List Char) × Cursor
  | 0, cursor => (none, cursor)
  | fuel + 1, cursor =>
    if cursor.column == 0 && cursor.isAtSeparator then (none, cursor)
    else
      let cursor := cursor.skip (· == ' ')
      match cursor.rest with
      | c :: _ =>
        if isBreak c then
          let (more?, behind) := plainBreaks fuel cursor.step
          (more?.map (c :: ·), behind)
        else (some [], cursor)
      | [] => (some [], cursor)

/-- The gap behind a run of a plain scalar, whether a line ends in it, and the place behind it. -/
def plainGap (fuel : Nat) (cursor : Cursor) : List Char × Bool × Cursor :=
  let spaces := cursor.taken (· == ' ')
  let cursor := cursor.skip (· == ' ')
  match cursor.rest with
  | c :: _ =>
    if isBreak c then
      let (more?, behind) := plainBreaks fuel cursor.step
      ((more?.map (folded c)).getD [], true, behind)
    else (spaces, false, cursor)
  | [] => (spaces, false, cursor)

/-- The runs of a plain scalar from one on, with the gap in front of it, and whether a line ends
behind the last. -/
def plainRuns (inFlow : Bool) (indent : Int) :
    Nat → List Char → Bool → Cursor → List Char × Bool × Cursor
  | 0, _, ended, cursor => ([], ended, cursor)
  | fuel + 1, gap, ended, cursor =>
    let run := plainRun inFlow cursor.rest
    if run.isEmpty || cursor.isAt '#' then ([], ended, cursor)
    else
      let (next, ended, behind) := plainGap (fuel + 1) (cursor.move run.length)
      -- Outside flow collections, a line that is indented too little belongs to another part.
      let stops := next.isEmpty || behind.isAt '#' || !inFlow && Int.ofNat behind.column < indent
      let (more, ended, behind) :=
        if stops then ([], ended, behind) else plainRuns inFlow indent fuel next ended behind
      (gap ++ run ++ more, ended, behind)

/-! ## Block styles -/

/-- What the first line of a block says: how to end the text, and how far it is indented. -/
structure BlockHeader where
  /-- Whether all line ends at the end stay, or none; one when not said. -/
  keep? : Option Bool
  increment? : Option Nat

def keepSign? (c : Char) : Option Bool :=
  if c == '+' then some true else if c == '-' then some false else none

def incrementDigit? (c : Char) : Option Nat :=
  if '1' ≤ c && c ≤ '9' then some (c.toNat - '0'.toNat) else none

/-- The signs in the first line of a block, in either order, and how many there are. -/
def blockHeader (text : List Char) : BlockHeader × Nat :=
  let first? := text.head?
  let second? := (text.drop 1).head?
  match first?.bind keepSign?, first?.bind incrementDigit? with
  | some keep, _ =>
    match second?.bind incrementDigit? with
    | some increment => (⟨some keep, some increment⟩, 2)
    | none => (⟨some keep, none⟩, 1)
  | none, some increment =>
    match second?.bind keepSign? with
    | some keep => (⟨some keep, some increment⟩, 2)
    | none => (⟨none, some increment⟩, 1)
  | none, none => (⟨none, none⟩, 0)

/-- Whether a text is at its end or starts with a space or the end of a line. -/
def startsSpace (text : List Char) : Bool := text.head?.all fun c => c == ' ' || isBreak c

/-- The place behind a line, of which only a comment may be left. -/
def behindLine (cursor : Cursor) : Except Failure Cursor :=
  if !startsSpace cursor.rest then .error .malformed
  else
    let cursor := cursor.skip (· == ' ')
    let cursor := if cursor.isAt '#' then cursor.skip fun c => !isBreak c else cursor
    if startsBreak cursor.rest then .ok cursor.step else .error .malformed

/-- The empty lines in front of a block, how far they reach to the right, and the place behind
them. -/
def blockMargin : Nat → Nat → Cursor → List Char × Nat × Cursor
  | 0, widest, cursor => ([], widest, cursor)
  | fuel + 1, widest, cursor =>
    match cursor.rest with
    | c :: _ =>
      if c == ' ' then blockMargin fuel (max widest (cursor.column + 1)) cursor.step
      else if isBreak c then
        let (more, widest, behind) := blockMargin fuel widest cursor.step
        (c :: more, widest, behind)
      else ([], widest, cursor)
    | [] => ([], widest, cursor)

def indentTo (indent : Nat) (cursor : Cursor) : Cursor :=
  cursor.move (min (indent - cursor.column) (cursor.taken (· == ' ')).length)

/-- Empty lines inside a block with an indent, and the place behind the indent of the next line. -/
def blockBreaks (indent : Nat) : Nat → Cursor → List Char × Cursor
  | 0, cursor => ([], cursor)
  | fuel + 1, cursor =>
    let cursor := indentTo indent cursor
    match cursor.rest with
    | c :: _ =>
      if isBreak c then
        let (more, behind) := blockBreaks indent fuel cursor.step
        (c :: more, behind)
      else ([], cursor)
    | [] => ([], cursor)

def atBlockLine (indent : Nat) (cursor : Cursor) : Bool :=
  cursor.column == indent && !cursor.rest.isEmpty

/-- What stands between two lines of a block. Folding spares lines that start with a space. -/
def blockJoint (folds leadsWithSpace : Bool) (lineEnd : Char) (breaks : List Char)
    (next : List Char) : List Char :=
  if folds && lineEnd == '\n' && !leadsWithSpace && !next.head?.any isSpace then
    if breaks.isEmpty then [' '] else []
  else [lineEnd]

def blockEnding (keep? : Option Bool) (lineEnd? : Option Char) (breaks : List Char) : List Char :=
  (if keep? == some false then [] else lineEnd?.toList) ++ if keep? == some true then breaks else []

/-- The lines of a block from one on, in front of which there are empty lines. -/
def blockLines (folds : Bool) (keep? : Option Bool) (indent : Nat) :
    Nat → List Char → Cursor → List Char × Cursor
  | 0, _, cursor => ([], cursor)
  | fuel + 1, breaks, cursor =>
    let line := cursor.taken fun c => !isBreak c
    let cursor := cursor.skip fun c => !isBreak c
    let lineEnd? := cursor.head?
    let (nextBreaks, behind) := blockBreaks indent (fuel + 1) cursor.step
    let (more, behind) :=
      if atBlockLine indent behind then
        let (more, place) := blockLines folds keep? indent fuel nextBreaks behind
        let indented := line.head?.any isSpace
        (blockJoint folds indented (lineEnd?.getD '\n') nextBreaks behind.rest ++ more, place)
      else (blockEnding keep? lineEnd? nextBreaks, behind)
    (breaks ++ line ++ more, behind)

/-- A scalar as a block of lines, from the place behind its mark on, below an indent. -/
def block (folds : Bool) (outer : Int) (fuel : Nat) (cursor : Cursor) :
    Except Failure (List Char × Cursor) := do
  let (header, signs) := blockHeader cursor.rest
  let cursor ← behindLine (cursor.move signs)
  let least := max 1 (outer + 1).toNat
  let (indent, breaks, cursor) :=
    match header.increment? with
    | some increment =>
      let indent := least + increment - 1
      let (breaks, cursor) := blockBreaks indent fuel cursor
      (indent, breaks, cursor)
    | none =>
      let (breaks, widest, cursor) := blockMargin fuel 0 cursor
      (max least widest, breaks, cursor)
  if atBlockLine indent cursor then
    .ok (blockLines folds header.keep? indent fuel breaks cursor)
  else .ok (blockEnding header.keep? none breaks, cursor)

end ApiReview.Yaml
