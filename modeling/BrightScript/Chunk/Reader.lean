import BrightScript.Chunk
set_option autoImplicit false

namespace BrightScript

namespace ChunkReader

def headKind (tokens : List Token) : Lexeme :=
  tokens.head?.elim .eof Token.kind

def faultAt (last : Location) (tokens : List Token) (cause : DirectiveFault) : DirectiveError :=
  ⟨cause, tokens.head?.elim last Token.location⟩

def expect (last : Location) (part : DirectivePart) (accepted : Lexeme → Bool) :
    List Token → Except DirectiveError (Token × List Token)
  | token :: rest =>
    if accepted token.kind then .ok (token, rest)
    else .error (faultAt last (token :: rest) (.expected part (some token.text)))
  | [] => .error (faultAt last [] (.expected part none))

def isCondition : Lexeme → Bool
  | .word .true | .word .false | .identifier => true
  | _ => false

def condition (last : Location) : List Token → Except DirectiveError (Token × List Token) :=
  expect last .condition isCondition

def lineEnd (last : Location) (tokens : List Token) : Except DirectiveError (List Token) :=
  if headKind tokens = .eof then .ok tokens
  else (expect last .lineEnd (· == .newline) tokens).map (·.2)

def declaration (last : Location) (tokens : List Token) :
    Except DirectiveError (Chunk × List Token) := do
  let (name, rest) ← expect last .constName (· == .identifier) tokens
  let (_, rest) ← expect last .equalSign (· == .symbol .equal) rest
  let (value, rest) ← condition last rest
  let rest ← lineEnd last rest
  pure (.declaration name value, rest)

def messageText (token : Token) : String :=
  match token.literal with
  | some (.string text) => text
  | _ => ""

def failure (last location : Location) (tokens : List Token) :
    Except DirectiveError (Chunk × List Token) :=
  match tokens with
  | token :: rest =>
    if token.kind = .message then
      (lineEnd last rest).map fun rest => (.failure (messageText token) location, rest)
    else (lineEnd last tokens).map fun rest => (.failure "" location, rest)
  | [] => .ok (.failure "" location, [])

def conditionLine (last : Location) (tokens : List Token) :
    Except DirectiveError (Token × List Token) := do
  let (token, rest) ← condition last tokens
  let rest ← lineEnd last rest
  pure (token, rest)

def isOrdinary (token : Token) : Bool :=
  token.kind != .eof && !token.kind.isDirective

mutual

-- Chunks up to the end of the stream or, inside an `#if`, up to the directive that ends the branch.
-- Every step takes a token, so a fuel above the number of tokens is never used up.
def chunks (last : Location) :
    Nat → Bool → List Token → Except DirectiveError (List Chunk × List Token)
  | 0, _, tokens => .error (faultAt last tokens .unterminatedIf)
  | _ + 1, nested, [] =>
    if nested then .error (faultAt last [] .unterminatedIf) else .ok ([], [])
  | fuel + 1, nested, token :: rest =>
    match token.kind with
    | .eof =>
      if nested then .error (faultAt last (token :: rest) .unterminatedIf)
      else .ok ([], token :: rest)
    | .directive .const => do
      let (chunk, rest) ← declaration last rest
      let (later, rest) ← chunks last fuel nested rest
      pure (chunk :: later, rest)
    | .directive .error => do
      let (chunk, rest) ← failure last token.location rest
      let (later, rest) ← chunks last fuel nested rest
      pure (chunk :: later, rest)
    | .directive .if_ => do
      let (test, rest) ← conditionLine last rest
      let (body, rest) ← chunks last fuel true rest
      let (elseIfs, rest) ← branches last fuel rest
      let (otherwise, rest) ← elseBranch last fuel rest
      let (close, rest) ← expect last .endIf (· == .directive .endIf) rest
      let rest ← lineEnd last rest
      let (later, rest) ← chunks last fuel nested rest
      pure (.conditional test body elseIfs otherwise (token.location.through close.location) ::
        later, rest)
    | .directive .elseIf | .directive .else_ | .directive .endIf =>
      if nested then .ok ([], token :: rest)
      else .error (faultAt last (token :: rest) (.stray token.text))
    | _ => do
      let (later, behind) ← chunks last fuel nested (rest.dropWhile isOrdinary)
      pure (.text (token :: rest.takeWhile isOrdinary) :: later, behind)

def branches (last : Location) : Nat → List Token → Except DirectiveError (List Branch × List Token)
  | 0, tokens => .error (faultAt last tokens .unterminatedIf)
  | _ + 1, [] => .ok ([], [])
  | fuel + 1, token :: rest =>
    if token.kind = .directive .elseIf then do
      let (test, rest) ← conditionLine last rest
      let (body, rest) ← chunks last fuel true rest
      let (later, rest) ← branches last fuel rest
      pure (.mk test body :: later, rest)
    else .ok ([], token :: rest)

def elseBranch (last : Location) :
    Nat → List Token → Except DirectiveError (Option (List Chunk) × List Token)
  | 0, tokens => .error (faultAt last tokens .unterminatedIf)
  | _ + 1, [] => .ok (none, [])
  | fuel + 1, token :: rest =>
    if token.kind = .directive .else_ then do
      let rest ← lineEnd last rest
      let (body, rest) ← chunks last fuel true rest
      pure (some body, rest)
    else .ok (none, token :: rest)

end

end ChunkReader

def parseChunks (tokens : List Token) : Except DirectiveError (List Chunk) :=
  let last := tokens.getLast?.elim Location.internal Token.location
  (ChunkReader.chunks last (tokens.length + 1) false tokens).map (·.1)

end BrightScript
