import Semicolon.Json.Value

/-!
# Json — writing

A value is written over several lines, two blanks deeper for each open container; an empty container
stays on its line.  Members keep the order of the list.
-/

namespace Semicolon.Json

/-- A hexadecimal digit. -/
def hexDigit (n : Nat) : Char := (Nat.toDigits 16 n).headD '0'

/-- A character inside a written string.  Quotes, backslashes and control characters are escaped. -/
def writeChar (c : Char) : List Char :=
  match c with
  | '"'    => ['\\', '"']
  | '\\'   => ['\\', '\\']
  | '\x08' => ['\\', 'b']
  | '\x0c' => ['\\', 'f']
  | '\n'   => ['\\', 'n']
  | '\r'   => ['\\', 'r']
  | '\t'   => ['\\', 't']
  | c      =>
    if c.toNat < 0x20 then
      ['\\', 'u', '0', '0', hexDigit (c.toNat / 16), hexDigit (c.toNat % 16)]
    else [c]

def writeString (s : String) : String :=
  String.ofList ('"' :: s.toList.flatMap writeChar ++ ['"'])

/-- A line break and the blanks in front of the next line. -/
def newline (depth : Nat) : String := String.ofList ('\n' :: List.replicate (2 * depth) ' ')

mutual

/-- A value inside of `depth` containers. -/
def write (depth : Nat) : Value → String
  | .null              => "null"
  | .boolean b         => if b then "true" else "false"
  | .number n          => n.text
  | .string s          => writeString s
  | .array []          => "[]"
  | .array (v :: vs)   =>
    "[" ++ newline (depth + 1) ++ write (depth + 1) v ++ writeItems (depth + 1) vs
      ++ newline depth ++ "]"
  | .object []         => "\x7b\x7d"
  | .object ((name, v) :: ms) =>
    "\x7b" ++ newline (depth + 1) ++ writeString name ++ ": " ++ write (depth + 1) v
      ++ writeMembers (depth + 1) ms ++ newline depth ++ "\x7d"

/-- The items behind the first. -/
def writeItems (depth : Nat) : List Value → String
  | []      => ""
  | v :: vs => "," ++ newline depth ++ write depth v ++ writeItems depth vs

/-- The members behind the first. -/
def writeMembers (depth : Nat) : List (String × Value) → String
  | []              => ""
  | (name, v) :: ms =>
    "," ++ newline depth ++ writeString name ++ ": " ++ write depth v ++ writeMembers depth ms

end

end Semicolon.Json
