import BrightScript.Chunk.Reader
import BrightScript.Table
set_option autoImplicit false

namespace BrightScript

abbrev Constants := Table Bool

namespace Chunk

def truth (constants : Constants) (condition : Token) : Except DirectiveError Bool :=
  match condition.kind with
  | .word .true => .ok true
  | .word .false => .ok false
  | _ => match constants.get? condition.text with
    | some value => .ok value
    | none => .error ⟨.undefinedConst condition.text, condition.location⟩

def declare (constants : Constants) (name value : Token) : Except DirectiveError Constants :=
  if constants.contains name.text then .error ⟨.constRedeclared name.text, name.location⟩
  else (truth constants value).map fun value => constants.insert name.text value

mutual

def select (constants : Constants) : Chunk → Except DirectiveError (List Token × Constants)
  | .text tokens => .ok (tokens, constants)
  | .declaration name value => (declare constants name value).map fun after => ([], after)
  | .failure message location => .error ⟨.userError message, location⟩
  | .conditional condition body elseIfs otherwise _ => do
    if ← truth constants condition then selectAll constants body
    else
      match ← selectBranch constants elseIfs with
      | some taken => pure taken
      | none => selectElse constants otherwise

def selectAll (constants : Constants) :
    List Chunk → Except DirectiveError (List Token × Constants)
  | [] => .ok ([], constants)
  | chunk :: rest => do
    let (tokens, after) ← select constants chunk
    let (later, after) ← selectAll after rest
    pure (tokens ++ later, after)

def selectBranch (constants : Constants) :
    List Branch → Except DirectiveError (Option (List Token × Constants))
  | [] => .ok none
  | .mk condition body :: rest => do
    if ← truth constants condition then (selectAll constants body).map some
    else selectBranch constants rest

def selectElse (constants : Constants) :
    Option (List Chunk) → Except DirectiveError (List Token × Constants)
  | none => .ok ([], constants)
  | some body => selectAll constants body

end

end Chunk

structure Preprocessed where
  tokens : List Token
  errors : List DirectiveError

def closeStream (tokens : List Token) : List Token :=
  let location := tokens.getLast?.elim Location.internal fun token =>
    ⟨token.location.file, token.location.stop, token.location.stop⟩
  tokens ++ [Token.eofAt location]

def filterChunks (chunks : List Chunk) (constants : Constants) : Preprocessed :=
  match Chunk.selectAll constants chunks with
  | .ok (tokens, _) => ⟨closeStream tokens, []⟩
  | .error e => ⟨closeStream [], [e]⟩

def preprocess (tokens : List Token) (constants : Constants) : Preprocessed :=
  match parseChunks tokens with
  | .ok chunks => filterChunks chunks constants
  | .error e => ⟨closeStream [], [e]⟩

end BrightScript
