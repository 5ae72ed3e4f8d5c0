import BrightScript.Machine.Call
import BrightScript.Source
set_option autoImplicit false

namespace BrightScript

inductive Conclusion where
  | value (value : Value)
  | failed (error : RuntimeError)
  | exhausted

structure Session where
  setting : Setting
  state : State
  errors : Sink

def hoist : List Stmt → Exec Unit
  | [] => pure ()
  | .declare name function _ :: rest => do
    Exec.declare name function
    hoist rest
  | _ :: rest => hoist rest

def runModule (setting : Setting) (statements : List Stmt) : Exec Value := do
  hoist statements
  match (← executeAll setting (callFunction setting) statements).result with
  | .ok value => pure (value.getD .invalid)
  | .error error => throw (.error error)

def runNamed (setting : Setting) (name : String) (arguments : List Value) : Exec Value := do
  match (← get).lookup? name with
  | some (.function ref) => callFunction setting ref arguments none .internal
  | some other => Exec.fail (.notCallable other.kind) .internal
  | none => Exec.fail (.undefinedFunction name) .internal

namespace Session

def startOn (options : Options) (output errors : Sink) : Session :=
  ⟨⟨options, .empty⟩, .fresh output, errors⟩

def start (options : Options) (outputLimit errorLimit : Option Nat) : Session :=
  startOn options (.empty outputLimit) (.empty errorLimit)

def conclude (s : Session) (run : Setting → Exec Value) : Conclusion × Session :=
  match s with
  | ⟨setting, state, errors⟩ =>
    match run setting state with
    | .ok value state => (.value value, ⟨setting, state, errors⟩)
    | .error .finish state => (.value .invalid, ⟨setting, state, errors⟩)
    | .error (.error error) state =>
      let report := error.describe Fault.message ++ "\n"
      (.failed error, ⟨setting, state, errors.write report⟩)
    | .error .exhausted state => (.exhausted, ⟨setting, state, errors⟩)

def exec (s : Session) (statements : List Stmt) : Conclusion × Session :=
  s.conclude (runModule · statements)

def call (s : Session) (name : String) (arguments : List Value) : Conclusion × Session :=
  s.conclude (runNamed · name arguments)

def parse (s : Session) (source : String) : Except SourceError (List Stmt) :=
  parseSource source s.setting.options.file s.setting.options.constants

def get? (s : Session) (name : String) : Option Value :=
  s.state.lookup? name

def define (s : Session) (scope : Scope) (name : String) (value : Value) : Session :=
  { s with state := s.state.define scope name value }

def remove (s : Session) (name : String) : Session :=
  let frame := s.state.frame
  { s with state := { s.state with frame := { frame with locals := frame.locals.erase name } } }

def mock (s : Session) (name : String) (value : Value) : Session :=
  { s with state := { s.state with mocks := s.state.mocks.insert name value } }

def resetMocks (s : Session) : Session :=
  { s with state := { s.state with mocks := .empty } }

def setReceiver (s : Session) (ref : Nat) : Session :=
  { s with state := { s.state with frame := { s.state.frame with receiver := ref } } }

def register (s : Session) (name : String) (class_ : ComponentClass) : Session :=
  { s with setting := { s.setting with components := s.setting.components.insert name class_ } }

def allocate {α : Type} (s : Session) (make : Heap → α × Heap) : α × Session :=
  let (made, heap) := make s.state.heap
  (made, { s with state := { s.state with heap } })

end Session

end BrightScript
