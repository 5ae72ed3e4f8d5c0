import BrightScript.Text.CaseTable
import BrightScript.Text.Ranges
set_option autoImplicit false

namespace BrightScript

def caseCounterpart (runs : List CaseRun) (special : List (Nat × List Nat)) (c : Char) :
    List Char :=
  match special.find? (·.1 == c.toNat) with
  | some (_, several) => several.map Char.ofNat
  | none =>
    match runs.find? (·.maps c.toNat) with
    | some run => [Char.ofNat (c.toNat + run.shift).toNat]
    | none => [c]

def upperChar : Char → List Char :=
  caseCounterpart upperRuns upperSpecial

def lowerChar : Char → List Char :=
  caseCounterpart lowerRuns lowerSpecial

def upperText (text : String) : String :=
  String.ofList (text.toList.flatMap upperChar)

def casedNext (text : List Char) : Bool :=
  match text.dropWhile (inRanges caseIgnorableRanges) with
  | c :: _ => inRanges casedRanges c
  | [] => false

-- Small letters of `text`, where `before` is what stands in front of it, backwards.
def lowerAfter : List Char → List Char → List Char
  | _, [] => []
  | before, c :: rest =>
    let lowered :=
      if c == 'Σ' then (if casedNext before && !casedNext rest then ['ς'] else ['σ'])
      else lowerChar c
    lowered ++ lowerAfter (c :: before) rest

def lowerText (text : String) : String :=
  String.ofList (lowerAfter [] text.toList)

end BrightScript
