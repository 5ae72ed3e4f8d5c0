import BrightScript.Builtin
import BrightScript.Chunk.Selection
import BrightScript.Output
set_option autoImplicit false

namespace BrightScript

structure Options where
  file : String := "main.brs"
  constants : Constants := .empty
  maxCallDepth : Nat := 256
  printWidth : Nat := 16
  -- How often a single loop, or the jumps of a single block, may go round.
  maxRounds : Nat := Nat.pow 2 60

structure Setting where
  options : Options
  components : Table ComponentClass

structure Frame where
  locals : Table Value
  receiver : Nat

inductive Scope where
  | global
  | module
  | function
deriving DecidableEq, Repr

structure Scene where
  frame : Frame
  module : Table Value
  heap : Heap
  output : Printer

inductive Event where
  -- A function was entered when `depth` calls were open.
  | entered (function : String) (depth : Nat)
  | caught (error : RuntimeError)
  -- An `end` was executed when `depth` calls were open, and this was the scene.
  | ended (depth : Nat) (scene : Scene)

structure State where
  frame : Frame
  root : Nat
  globals : Table Value
  module : Table Value
  mocks : Table Value
  heap : Heap
  output : Printer
  depth : Nat
  -- What was noted so far, the latest first.
  journal : List Event

namespace State

def scene (s : State) : Scene :=
  ⟨s.frame, s.module, s.heap, s.output⟩

def lookup? (s : State) (name : String) : Option Value :=
  if sameName name "m" then some (.table s.frame.receiver)
  else
    s.mocks.get? name <|> s.frame.locals.get? name <|> s.module.get? name <|> s.globals.get? name

def define (s : State) (scope : Scope) (name : String) (value : Value) : State :=
  match scope with
  | .global => { s with globals := s.globals.insert name value }
  | .module => { s with module := s.module.insert name value }
  | .function =>
    { s with frame := { s.frame with locals := s.frame.locals.insert name value } }

def fresh (sink : Sink) : State :=
  let (_, heap) := Heap.empty.newTable .empty
  let (globals, heap) := Builtin.callables.foldl
    (fun (globals, heap) callable =>
      let (value, heap) := heap.newFunction callable
      (globals.insert callable.displayName value, heap))
    (Table.empty, heap)
  { frame := ⟨.empty, 0⟩, root := 0, globals, module := .empty, mocks := .empty, heap,
    output := .onto sink, depth := 0, journal := [] }

def initial (limit : Option Nat) : State :=
  fresh (.empty limit)

end State

inductive Halt where
  | error (error : RuntimeError)
  | finish
  | exhausted

abbrev Exec := EStateM Halt State

-- Calls the function at `ref`, with `m` standing for `receiver` or, without one, for the root.
abbrev Call := (ref : Nat) → (arguments : List Value) → (receiver : Option Nat) → Location →
  Exec Value

namespace Exec

variable {α : Type}

def fail (fault : Fault) (location : Location) : Exec α :=
  throw (.error ⟨fault, location⟩)

def orFail (result : Option α) (fault : Fault) (location : Location) : Exec α :=
  match result with
  | some a => pure a
  | none => fail fault location

def ofExcept (location : Location) (result : Except Fault α) : Exec α :=
  match result with
  | .ok a => pure a
  | .error fault => fail fault location

def onHeap (location : Location) (access : Access α) : Exec α := fun s =>
  let heap := s.heap
  let s := { s with heap := .empty }
  match access heap with
  | .ok a heap => .ok a { s with heap }
  | .error fault heap => .error (.error ⟨fault, location⟩) { s with heap }

def allocate (make : Heap → α × Heap) : Exec α := fun s =>
  let heap := s.heap
  let s := { s with heap := .empty }
  let (a, heap) := make heap
  .ok a { s with heap }

def print (text : String) (location : Location) : Exec Unit := do
  let refusal := (← get).output.refusal? text
  modify fun s => { s with output := s.output.write text }
  match refusal with
  | none => pure ()
  | some reason => fail (.output reason) location

def printZone (width : Nat) (location : Location) : Exec Unit := do
  print ((← get).output.zoneGap width) location

def lookup (name : String) : Exec Value := do
  pure (((← get).lookup? name).getD .uninitialized)

def define (scope : Scope) (name : String) (value : Value) : Exec Unit :=
  modify fun s => s.define scope name value

def convert? (value : Value) (kind : Kind) : Exec (Option Value) :=
  allocate fun heap =>
    let mark := heap.boxes
    (coerce? mark value kind, { heap with boxes := mark + 1 })

def assign (name : String) (value : Value) (location : Location) : Exec Unit := do
  match Kind.ofDesignator? name with
  | some kind =>
    match ← convert? value kind with
    | some converted => define .function name converted
    | none => fail (.assignmentMismatch name value.kind) location
  | none => define .function name value

def declare (name : String) (function : Function) : Exec Unit := do
  let value ← allocate (·.newFunction (.user function))
  define .module name value

def note (event : Event) : Exec Unit :=
  modify fun s => { s with journal := event :: s.journal }

def finish : Exec α := fun s =>
  .error .finish { s with journal := .ended s.depth s.scene :: s.journal }

def inCall (frame : Frame) (body : Exec α) : Exec α := fun s =>
  let old := s.frame
  match body { s with frame, depth := s.depth + 1 } with
  | .ok a s => .ok a { s with frame := old, depth := s.depth - 1 }
  | .error halt s => .error halt { s with frame := old, depth := s.depth - 1 }

end Exec

end BrightScript
