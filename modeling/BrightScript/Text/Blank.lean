import BrightScript.Text.Ranges
set_option autoImplicit false

namespace BrightScript

def blankRanges : List (Nat × Nat) :=
  [(0x09, 0x0D), (0x20, 0x20), (0x85, 0x85), (0xA0, 0xA0), (0x1680, 0x1680), (0x2000, 0x200A),
    (0x2028, 0x2029), (0x202F, 0x202F), (0x205F, 0x205F), (0x3000, 0x3000)]

def isBlank (c : Char) : Bool :=
  inRanges blankRanges c

def trimStartChars (text : List Char) : List Char :=
  text.dropWhile isBlank

def trimEndChars (text : List Char) : List Char :=
  (text.reverse.dropWhile isBlank).reverse

def trimChars (text : List Char) : List Char :=
  trimEndChars (trimStartChars text)

def trim (text : String) : String :=
  String.ofList (trimChars text.toList)

end BrightScript
