import BrightScript.Coercion
import BrightScript.Tree
set_option autoImplicit false

namespace BrightScript

structure Argument where
  name : String
  kind : Kind
  optional : Bool := false
deriving DecidableEq, Repr

structure Signature where
  arguments : List Argument
  returns : Kind
deriving DecidableEq, Repr

namespace Signature

def required (s : Signature) : Nat :=
  (s.arguments.filter fun argument => !argument.optional).length

def admits (s : Signature) (count : Nat) : Bool :=
  s.required ≤ count && count ≤ s.arguments.length

def convert? (fresh : Nat) : List Value → List Argument → Option (List Value)
  | value :: values, argument :: arguments =>
    match coerce? fresh value argument.kind, convert? (fresh + 1) values arguments with
    | some first, some later => some (first :: later)
    | _, _ => none
  | _, _ => some []

def accepts? (s : Signature) (fresh : Nat) (values : List Value) : Option (List Value) :=
  if s.admits values.length then convert? fresh values s.arguments else none

def firstMisfit? : List Value → List Argument → Option (Value × Argument)
  | value :: values, argument :: arguments =>
    if (coerce? 0 value argument.kind).isNone then some (value, argument)
    else firstMisfit? values arguments
  | _, _ => none

def misfit (s : Signature) (values : List Value) : String :=
  let required := s.required
  let most := s.arguments.length
  let count := values.length
  if !s.admits count then
    if required = most then s!"expected {required} arguments, got {count}"
    else s!"expected {required} to {most} arguments, got {count}"
  else match firstMisfit? values s.arguments with
    | some (value, argument) =>
      s!"argument '{argument.name}' expects {argument.kind.name}, got {value.kind.name}"
    | none => ""

def argumentText (a : Argument) : String :=
  if a.optional then s!"[{a.name} as {a.kind.name}]" else s!"{a.name} as {a.kind.name}"

def text (s : Signature) : String :=
  let arguments := ", ".intercalate (s.arguments.map argumentText)
  s!"({arguments}) as {s.returns.name}"

end Signature

inductive Builtin where
  | type
  | str
  | strI
  | val
  | valRadix
  | len
  | uCase
  | lCase
  | abs
  | int
  | fix
  | sqr
  | createObject
  | box
  | getGlobalAA
  | getInterface
deriving DecidableEq, Repr

inductive ArrayMethod where
  | count
  | push
  | pop
  | peek
  | shift
  | unshift
  | clear
  | isEmpty
  | append
deriving DecidableEq, Repr

inductive TableMethod where
  | count
  | clear
  | isEmpty
  | doesExist
  | delete
  | lookup
  | addReplace
  | keys
  | items
  | append
deriving DecidableEq, Repr

inductive Native where
  | builtin (function : Builtin)
  | arrayMethod (ref : Nat) (method : ArrayMethod)
  | tableMethod (ref : Nat) (method : TableMethod)
  | fieldCount (ref : Nat)
  | constant (value : Value)
  | collect
  | fail (cause : Fault)
deriving DecidableEq

inductive Code where
  | native (native : Native)
  | user (function : Function)

structure Overload where
  signature : Signature
  code : Code

structure Callable where
  name : Option String
  overloads : List Overload

namespace Callable

instance : Inhabited Callable := ⟨⟨none, []⟩⟩

def displayName (c : Callable) : String :=
  c.name.getD "anonymous"

def native (name : String) (arguments : List Argument) (returns : Kind) (code : Native) :
    Callable :=
  ⟨some name, [⟨⟨arguments, returns⟩, .native code⟩]⟩

def argumentOf (p : Parameter) : Argument :=
  ⟨p.name, p.kind, p.default.isSome⟩

def user (function : Function) : Callable :=
  ⟨function.name, [⟨⟨function.parameters.map argumentOf, function.returns⟩, .user function⟩]⟩

structure Choice where
  index : Nat
  code : Code
  arguments : List Value

def choose? (fresh : Nat) (values : List Value) : Nat → List Overload → Option Choice
  | _, [] => none
  | index, overload :: rest =>
    match overload.signature.accepts? fresh values with
    | some arguments => some ⟨index, overload.code, arguments⟩
    | none => choose? fresh values (index + 1) rest

def misfit (c : Callable) (values : List Value) : String :=
  match c.overloads with
  | [only] => only.signature.misfit values
  | overloads =>
    let candidates := " | ".intercalate (overloads.map (·.signature.text))
    s!"no overload accepts these arguments; candidates: {candidates}"

def resolve (c : Callable) (fresh : Nat) (values : List Value) : Except Fault Choice :=
  match choose? fresh values 0 c.overloads with
  | some choice => .ok choice
  | none => .error (.argumentMismatch c.displayName (c.misfit values))

end Callable

end BrightScript
