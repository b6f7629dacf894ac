import ApiReview.Address.Token

/-!
Reading an address from its text: the root, then names behind a dot, and bracketed names,
positions, slices and filters. A text that is no address, and an address that matches nothing, are
reported with the text.
-/

set_option autoImplicit false

namespace ApiReview

/-- Why an address cannot be used. -/
inductive AddressError
  | rootMissing (text : String)
  | malformed (text : String)
  | unmatched (text : String)
  | foreignReference (reference : String)
  deriving DecidableEq, Repr

def AddressError.message : AddressError → String
  | .rootMissing text => "JSONPath must start with '$': " ++ text
  | .malformed text => "Invalid JSONPath " ++ text
  | .unmatched text => "Nothing matches " ++ text
  | .foreignReference reference => "Only local references are supported: " ++ reference

namespace Address

def Token.name? : Token → Option String
  | .bare word => some word
  | .quoted text => some text
  | _ => none

def Token.literal? : Token → Option Literal
  | .int number => some (.int number)
  | .float number => some (.float number)
  | .quoted text => some (.str text)
  | .bare word =>
    some (if word = "true" then .bool true
      else if word = "false" then .bool false
      else if word = "null" then .null
      else .str word)
  | _ => none

def readNames : List Token → Option (List String × List Token)
  | name :: .comma :: rest => do
    let name ← name.name?
    let (names, rest) ← readNames rest
    some (name :: names, rest)
  | name :: .closeBracket :: rest => name.name?.map fun name => ([name], rest)
  | _ => none

def readPositions : List Token → Option (List Int × List Token)
  | .int index :: .comma :: rest =>
    (readPositions rest).map fun (indexes, rest) => (index :: indexes, rest)
  | .int index :: .closeBracket :: rest => some ([index], rest)
  | _ => none

/-- Reads what stands between brackets, behind the opening one. -/
def readBracket : List Token → Option (Step × List Token)
  | .star :: .closeBracket :: rest => some (.every, rest)
  | .colon :: .closeBracket :: rest => some (.slice none none, rest)
  | .colon :: .int stop :: .closeBracket :: rest => some (.slice none (some stop), rest)
  | .int start :: .colon :: .closeBracket :: rest => some (.slice (some start) none, rest)
  | .int start :: .colon :: .int stop :: .closeBracket :: rest =>
    some (.slice (some start) (some stop), rest)
  | .int index :: rest => (readPositions (.int index :: rest)).map fun (is, rest) =>
    (.positions is, rest)
  | rest => (readNames rest).map fun (names, rest) => (.names names, rest)

def readStep? : List Token → Option (Step × List Token)
  | .dot :: .bare word :: rest => some (.names [word], rest)
  | .dot :: .quoted text :: rest => some (.names [text], rest)
  | .dot :: .int number :: rest => some (.names [toString number], rest)
  | .dot :: .star :: rest => some (.every, rest)
  | .dot :: .openBracket :: rest => readBracket rest
  | .openBracket :: rest => readBracket rest
  | _ => none

/-- A way inside a condition. Its last stretch starts behind the last dot; only that stretch is
crossed when `&` and another way follow. -/
structure Track where
  before : List Step := []
  stretch : List Step := []
  /-- The steps in front of the first crossing. -/
  crossedAt? : Option (List Step) := none

namespace Track

/-- The steps of a way that is not crossed. -/
def steps (track : Track) : List Step := track.before ++ track.stretch

/-- The way with a step more, which starts a new stretch behind a dot. -/
def add (track : Track) (behindDot : Bool) (step : Step) : Track :=
  if behindDot then { track with before := track.steps, stretch := [step] }
  else { track with stretch := track.stretch ++ [step] }

def cross (track : Track) : Track :=
  { track with crossedAt? := some (track.crossedAt?.getD track.before) }

/-- The way as a single stretch, as parentheses make it. -/
def enclosed (track : Track) : Track := { track with before := [], stretch := track.steps }

def condition (track : Track) (test? : Option (Relation × Literal)) : Condition :=
  match track.crossedAt? with
  | some steps => ⟨steps, test?, true⟩
  | none => ⟨track.steps, test?, false⟩

end Track

mutual

/-- Reads the start of a way: the node itself, a choice among its parts, or a way in parentheses. -/
def readStart : Nat → List Token → Option (Track × List Token)
  | 0, _ => none
  | fuel + 1, tokens =>
    match tokens with
    | .current :: rest | .root :: rest => some ({}, rest)
    | .bare word :: rest => some ({ stretch := [.names [word]] }, rest)
    | .quoted text :: rest => some ({ stretch := [.names [text]] }, rest)
    | .star :: rest => some ({ stretch := [.every] }, rest)
    | .openBracket :: rest =>
      (readBracket rest).map fun (step, rest) => ({ stretch := [step] }, rest)
    | .openParenthesis :: rest =>
      (readTrack fuel rest).bind fun (track, rest) =>
        match rest with
        | .closeParenthesis :: rest => some (track.enclosed, rest)
        | _ => none
    | _ => none

def readTrack : Nat → List Token → Option (Track × List Token)
  | 0, _ => none
  | fuel + 1, tokens =>
    (readStart fuel tokens).bind fun (track, rest) => continueTrack track fuel rest

/-- Reads a way on, through its steps and crossings. -/
def continueTrack (track : Track) : Nat → List Token → Option (Track × List Token)
  | 0, _ => none
  | fuel + 1, tokens =>
    match tokens with
    | .cross :: rest =>
      (readStart fuel rest).bind fun (_, rest) => continueTrack track.cross fuel rest
    | tokens =>
      match readStep? tokens with
      | some (step, rest) => continueTrack (track.add (tokens.head? == some .dot) step) fuel rest
      | none => some (track, tokens)

end

mutual

def readConditions : Nat → List Token → Option (List Condition × List Token)
  | 0, _ => none
  | fuel + 1, tokens =>
    (readCondition fuel tokens).bind fun (conditions, rest) =>
      match rest with
      | .both :: rest | .cross :: rest =>
        (readConditions fuel rest).map fun (more, rest) => (conditions ++ more, rest)
      | rest => some (conditions, rest)

/-- Reads a single condition or conditions in parentheses. A way in parentheses is a way. -/
def readCondition : Nat → List Token → Option (List Condition × List Token)
  | 0, _ => none
  | fuel + 1, tokens =>
    match readTrack (2 * tokens.length + 2) tokens with
    | some (track, .relation relation :: literal :: rest) =>
      literal.literal?.map fun literal => ([track.condition (some (relation, literal))], rest)
    | some (track, rest) => some ([track.condition none], rest)
    | none =>
      match tokens with
      | .openParenthesis :: rest =>
        (readConditions fuel rest).bind fun (conditions, rest) =>
          match rest with
          | .closeParenthesis :: rest => some (conditions, rest)
          | _ => none
      | _ => none

end

def readSelector? : List Token → Option (Selector × List Token)
  | .openBracket :: .question :: rest =>
    (readConditions (2 * rest.length + 2) rest).bind fun (conditions, rest) =>
      match rest with
      | .closeBracket :: rest => some (.filter conditions, rest)
      | _ => none
  | tokens => (readStep? tokens).map fun (step, rest) => (.step step, rest)

/-- Reads selectors up to the end, behind those of the last stretch and those in front of it. As in
a condition, a stretch starts behind the last dot, and only that stretch is crossed. -/
def readSelectors? (before stretch : Address) : List Token → Option Address
  | [] => some (before ++ stretch)
  | token :: tokens =>
    if token == .cross then
      (readStart (2 * tokens.length + 2) tokens).bind fun (_, rest) =>
        if rest.length < tokens.length + 1 then readSelectors? before [.crossing] rest else none
    else
      (readSelector? (token :: tokens)).bind fun (selector, rest) =>
        if rest.length < tokens.length + 1 then
          if token == .dot then readSelectors? (before ++ stretch) [selector] rest
          else readSelectors? before (stretch ++ [selector]) rest
        else none
termination_by tokens => tokens.length

def ofTokens? : List Token → Option Address
  | .root :: rest => readSelectors? [] [] rest
  | _ => none

/-- Why a text leads to no part: it is no address that can be used, or following it has no
meaning. -/
inductive LocateError
  | refused (error : AddressError)
  | fault (fault : Fault)
  deriving DecidableEq, Repr

/-- Reads an address. A position with too many digits has no value. -/
def ofText (text : String) : Except LocateError Address :=
  if text.toList.head? != some '$' then .error (.refused (.rootMissing text))
  else
    match tokens? text.toList with
    | none => .error (.refused (.malformed text))
    | some tokens =>
      if tokens.contains .endlessInt then .error (.fault .badValue)
      else
        match ofTokens? tokens with
        | some address => .ok address
        | none => .error (.refused (.malformed text))

/-- The way to the part of a document that an address text means. -/
def locate (document : Node) (text : String) : Except LocateError (List Part) := do
  let address ← ofText text
  if address.crosses document then .error (.fault .unsupported)
  else
    match address.locate? document with
    | some parts => .ok parts
    | none => .error (.refused (.unmatched text))

end Address

end ApiReview
