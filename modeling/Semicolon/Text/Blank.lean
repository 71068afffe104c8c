import Semicolon.Text.Basic

/-!
# Text — blank characters and trimming

* `isBlank` is the property `White_Space`: it holds of the next-line control, the no-break space
  and the ideographic space, and not of the zero-width ones.
* `trim` removes the blanks at both ends of a text and nothing else.
-/

namespace Semicolon.Text

/-- The characters that separate words: blanks, line breaks and the space-like separators. -/
def isBlank (c : Char) : Bool :=
  let n := c.toNat
  (0x09 ≤ n && n ≤ 0x0D) || n == 0x20 || n == 0x85 || n == 0xA0 || n == 0x1680
    || (0x2000 ≤ n && n ≤ 0x200A) || n == 0x2028 || n == 0x2029 || n == 0x202F || n == 0x205F
    || n == 0x3000

/-- The text without its leading blanks. -/
def trimStart (t : Text) : Text := t.dropWhile isBlank

/-- The text without the longest run of characters of `p` at its end. -/
def dropEndWhile (p : Char → Bool) (t : Text) : Text := (t.reverse.dropWhile p).reverse

/-- The text without its trailing blanks. -/
def trimEnd (t : Text) : Text := t.dropEndWhile isBlank

/-- The text without the blanks at its two ends. -/
def trim (t : Text) : Text := t.trimStart.trimEnd

end Semicolon.Text
