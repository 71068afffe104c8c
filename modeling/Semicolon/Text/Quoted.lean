import Semicolon.Text.Basic
import Semicolon.Text.Hidden

/-!
# Text — quoted texts in messages

A message shows a text between double quotes.  A double quote, a backslash, the usual controls and
every character that cannot be shown are escaped; all else stands for itself.
-/

namespace Semicolon.Text

/-- A character inside of a quoted text. -/
def quotedChar (c : Char) : Text :=
  match c with
  | '\x00' => ['\\', '0']
  | '\t'   => ['\\', 't']
  | '\r'   => ['\\', 'r']
  | '\n'   => ['\\', 'n']
  | '"'    => ['\\', '"']
  | '\\'   => ['\\', '\\']
  | c      =>
    if isHidden c then
      ['\\', 'u', '{'] ++ Nat.toDigits 16 c.toNat ++ ['}']
    else [c]

/-- The text between double quotes. -/
def quoted (t : Text) : Text := '"' :: t.flatMap quotedChar ++ ['"']

end Semicolon.Text
