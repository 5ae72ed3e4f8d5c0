import BrightScript.Machine.Execute
set_option autoImplicit false

namespace BrightScript

def Function.displayName (f : Function) : String :=
  f.name.getD "anonymous"

def defaultValue (call : Call) (function : String) (parameter : Parameter) : Exec Value :=
  match parameter.default with
  | none => pure .invalid
  | some expression => do
    let value ← evaluate call expression
    let converted ← Exec.convert? value parameter.kind
    let detail :=
      s!"default for '{parameter.name}' is {value.kind.name}, expected {parameter.kind.name}"
    Exec.orFail converted (.argumentMismatch function detail) expression.location

-- Gives the parameters their values in order, so that a default sees the parameters before it.
def bindParameters (call : Call) (function : String) : List Parameter → List Value → Exec Unit
  | [], _ => pure ()
  | parameter :: parameters, [] => do
    let value ← defaultValue call function parameter
    Exec.define .function parameter.name value
    bindParameters call function parameters []
  | parameter :: parameters, argument :: arguments => do
    Exec.define .function parameter.name argument
    bindParameters call function parameters arguments

def giveBack (function : Function) (value : Value) (location : Location) : Exec Value := do
  if function.isSub || function.returns == .void then pure .invalid
  else
    let converted ← Exec.convert? value function.returns
    Exec.orFail converted
      (.returnTypeMismatch function.displayName function.returns value.kind) location

def runFunction (setting : Setting) (call : Call) (function : Function) (arguments : List Value)
    (location : Location) : Exec Value := do
  bindParameters call function.displayName function.parameters arguments
  match (← executeBlock setting call function.body).result with
  | .ok none => pure .invalid
  | .ok (some value) => giveBack function value location
  | .error error => throw (.error error)

def runCode (setting : Setting) (call : Call) (code : Code) (arguments : List Value)
    (location : Location) : Exec Value := do
  match code with
  | .native native =>
    let root := (← get).root
    Exec.onHeap location (native.run ⟨setting.components, root⟩ arguments)
  | .user function => runFunction setting call function arguments location

def resolveCall (ref : Nat) (arguments : List Value) : Access Callable.Choice := do
  let heap ← get
  let mark := heap.boxes
  match (heap.function ref).resolve mark arguments with
  | .ok choice =>
    modify fun heap => { heap with boxes := mark + arguments.length }
    pure choice
  | .error fault => throw fault

def enter (setting : Setting) (call : Call) : Call := fun ref arguments receiver location => do
  let choice ← Exec.onHeap location (resolveCall ref arguments)
  let s ← get
  Exec.note (.entered (s.heap.function ref).displayName s.depth)
  Exec.inCall ⟨.empty, receiver.getD s.root⟩
    (runCode setting call choice.code choice.arguments location)

def callWithin (setting : Setting) : Nat → Call
  | 0, _, _, _, location => Exec.fail (.stackOverflow setting.options.maxCallDepth) location
  | remaining + 1, ref, arguments, receiver, location =>
    enter setting (callWithin setting remaining) ref arguments receiver location

def callFunction (setting : Setting) : Call := fun ref arguments receiver location s =>
  callWithin setting (setting.options.maxCallDepth - s.depth) ref arguments receiver location s

end BrightScript
