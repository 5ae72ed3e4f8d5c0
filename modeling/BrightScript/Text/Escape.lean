set_option autoImplicit false

namespace BrightScript

def hexText (n : Nat) : List Char :=
  Nat.toDigits 16 n

def escapeNumber (c : Char) : List Char :=
  '\\' :: 'u' :: '\x7b' :: hexText c.toNat ++ ['\x7d']

def isPrintableAscii (c : Char) : Bool :=
  0x20 ≤ c.toNat && c.toNat ≤ 0x7E

def escapeAsciiChar (c : Char) : List Char :=
  match c with
  | '\t' => ['\\', 't']
  | '\r' => ['\\', 'r']
  | '\n' => ['\\', 'n']
  | '\'' => ['\\', '\'']
  | '"' => ['\\', '"']
  | '\\' => ['\\', '\\']
  | c => if isPrintableAscii c then [c] else escapeNumber c

def escapeAscii (text : String) : String :=
  String.ofList (text.toList.flatMap escapeAsciiChar)

end BrightScript
