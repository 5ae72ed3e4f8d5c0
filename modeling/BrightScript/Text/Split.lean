set_option autoImplicit false

namespace BrightScript

def splitFirst? (separator : Char) : List Char → Option (List Char × List Char)
  | [] => none
  | c :: rest =>
    if c = separator then some ([], rest)
    else (splitFirst? separator rest).map fun (before, behind) => (c :: before, behind)

def splitAll (separator : Char) : List Char → List (List Char)
  | [] => [[]]
  | c :: rest =>
    if c = separator then [] :: splitAll separator rest
    else match splitAll separator rest with
      | [] => [[c]]
      | part :: parts => (c :: part) :: parts

def dropReturn (line : List Char) : List Char :=
  if line.getLast? = some '\r' then line.dropLast else line

-- The lines of a text. Each ends with a line feed, with or without a carriage return before it;
-- what stands behind the last line feed is a line only if it is not empty.
def lines (text : List Char) : List (List Char) :=
  match (splitAll '\n' text).reverse with
  | [] => []
  | last :: complete =>
    complete.reverse.map dropReturn ++ if last.isEmpty then [] else [last]

end BrightScript
