import BrightScript.Chunk.Selection
import BrightScript.Tree.Statement
import BrightScript.Token.Lexer
set_option autoImplicit false

namespace BrightScript

inductive SourceError where
  | lex (errors : List (Located LexFault))
  | preprocess (errors : List DirectiveError)
  | parse (errors : List ParseError)

namespace SourceError

def messages : SourceError → List String
  | .lex errors => errors.map (·.describe LexFault.message)
  | .preprocess errors => errors.map (·.describe DirectiveFault.message)
  | .parse errors => errors.map (·.describe ParseFault.message)

def summarize : List String → String
  | [] => "no errors"
  | [only] => only
  | first :: rest => s!"{first} (and {rest.length} more)"

def message (e : SourceError) : String :=
  summarize e.messages

end SourceError

def parseSource (source file : String) (constants : Constants) :
    Except SourceError (List Stmt) :=
  let scanned := scan source file
  if !scanned.errors.isEmpty then .error (.lex scanned.errors)
  else
    let selected := preprocess scanned.tokens constants
    if !selected.errors.isEmpty then .error (.preprocess selected.errors)
    else
      let parsed := parse selected.tokens
      if !parsed.errors.isEmpty then .error (.parse parsed.errors)
      else .ok parsed.statements

end BrightScript
