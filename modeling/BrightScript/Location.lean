set_option autoImplicit false

/-!
Where a piece of source text stands. Lines and columns count from one, columns in characters; a
line feed ends at the first column of the next line.
-/

namespace BrightScript

structure Position where
  line : Nat
  column : Nat
deriving DecidableEq, Repr, Inhabited

def Position.step (p : Position) (c : Char) : Position :=
  if c = '\n' then ⟨p.line + 1, 1⟩ else ⟨p.line, p.column + 1⟩

def Position.after (p : Position) (text : List Char) : Position :=
  text.foldl Position.step p

theorem Position.after_append (p : Position) (a b : List Char) :
    p.after (a ++ b) = (p.after a).after b := by
  simp [Position.after]

structure Location where
  file : String
  start : Position
  stop : Position
deriving DecidableEq, Repr, Inhabited

def Location.internal : Location :=
  ⟨"(internal)", ⟨0, 0⟩, ⟨0, 0⟩⟩

def Location.through (a b : Location) : Location :=
  ⟨a.file, a.start, b.stop⟩

def Location.text (l : Location) : String :=
  s!"{l.file}:{l.start.line}:{l.start.column}"

structure Located (α : Type) where
  cause : α
  location : Location
deriving Repr, Inhabited

def Located.describe {α : Type} (message : α → String) (e : Located α) : String :=
  s!"{message e.cause} at {e.location.text}"

end BrightScript
