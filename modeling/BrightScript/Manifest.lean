import BrightScript.Chunk.Selection
import BrightScript.Text.Blank
import BrightScript.Text.Quoted
import BrightScript.Text.Split
set_option autoImplicit false

namespace BrightScript

inductive ManifestFault where
  | malformedLine (line : Nat) (text : String)
  | malformedConst (entry : String)
deriving DecidableEq, Repr

def ManifestFault.message : ManifestFault → String
  | .malformedLine line text =>
    s!"manifest line {line}: expected 'key=value', found {quoted text}"
  | .malformedConst entry =>
    s!"bs_const entry {quoted entry} must look like NAME=true or NAME=false"

abbrev Manifest := Table String

namespace Manifest

inductive Line where
  | nothing
  | pair (key value : String)
  | malformed
deriving DecidableEq, Repr

def Line.read (text : List Char) : Line :=
  match trimChars text with
  | [] => .nothing
  | '#' :: _ => .nothing
  | line =>
    match splitFirst? '=' line with
    | some (key, value) =>
      .pair (String.ofList (trimChars key)) (String.ofList (trimChars value))
    | none => .malformed

def addLines (manifest : Manifest) (number : Nat) :
    List (List Char) → Except ManifestFault Manifest
  | [] => .ok manifest
  | line :: rest =>
    match Line.read line with
    | .nothing => addLines manifest (number + 1) rest
    | .pair key value => addLines (manifest.insert key value) (number + 1) rest
    | .malformed => .error (.malformedLine number (String.ofList line))

def parse (text : String) : Except ManifestFault Manifest :=
  addLines .empty 1 (lines text.toList)

end Manifest

def readTruth? (word : List Char) : Option Bool :=
  match fold (String.ofList word) with
  | "true" => some true
  | "false" => some false
  | _ => none

def parseConst (entry : String) : Except ManifestFault (String × Bool) :=
  match splitFirst? '=' entry.toList with
  | some (name, value) =>
    match trimChars name, readTruth? (trimChars value) with
    | c :: rest, some truth => .ok (fold (String.ofList (c :: rest)), truth)
    | _, _ => .error (.malformedConst entry)
  | none => .error (.malformedConst entry)

namespace Manifest

def addConstants (constants : Constants) : List String → Except ManifestFault Constants
  | [] => .ok constants
  | entry :: rest =>
    match parseConst entry with
    | .ok (name, value) => addConstants (constants.insert name value) rest
    | .error fault => .error fault

def constEntries (value : String) : List String :=
  (((splitAll ';' value.toList).map trimChars).filter (!·.isEmpty)).map String.ofList

def constants (manifest : Manifest) : Except ManifestFault Constants :=
  match manifest.get? "bs_const" with
  | some value => addConstants .empty (constEntries value)
  | none => .ok .empty

end Manifest

end BrightScript
