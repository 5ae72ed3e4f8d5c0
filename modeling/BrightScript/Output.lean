set_option autoImplicit false

namespace BrightScript

structure Sink where
  written : String
  -- How many texts were offered so far, taken or not.
  offers : Nat
  refuses? : (written : String) → (offers : Nat) → (text : String) → Option String

namespace Sink

def refusal : String := "sink full"

def empty (limit : Option Nat) : Sink where
  written := ""
  offers := 0
  refuses? written _ text :=
    match limit with
    | some limit => if written.utf8ByteSize + text.utf8ByteSize ≤ limit then none else some refusal
    | none => none

-- An empty text is never offered, so it cannot be refused.
def refusal? (s : Sink) (text : String) : Option String :=
  if text = "" then none else s.refuses? s.written s.offers text

def write (s : Sink) (text : String) : Sink :=
  if text = "" then s
  else
    match s.refusal? text with
    | none => { s with written := s.written ++ text, offers := s.offers + 1 }
    | some _ => { s with offers := s.offers + 1 }

def since (s : Sink) (length : Nat) : String :=
  String.ofList (s.written.toList.drop length)

end Sink

def columnStep (column : Nat) (c : Char) : Nat :=
  if c = '\n' then 0 else column + 1

def columnAfter (column : Nat) (text : String) : Nat :=
  text.toList.foldl columnStep column

structure Printer where
  sink : Sink
  column : Nat

namespace Printer

def onto (sink : Sink) : Printer := ⟨sink, 0⟩

def refusal? (p : Printer) (text : String) : Option String :=
  p.sink.refusal? text

def write (p : Printer) (text : String) : Printer :=
  match p.refusal? text with
  | none => ⟨p.sink.write text, columnAfter p.column text⟩
  | some _ => ⟨p.sink.write text, p.column⟩

def padding (width column : Nat) : Nat :=
  max 1 width - column % max 1 width

def zoneGap (p : Printer) (width : Nat) : String :=
  String.ofList (List.replicate (padding width p.column) ' ')

end Printer

end BrightScript
