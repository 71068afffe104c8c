import Semicolon.Text.Basic

/-!
# Delimiters — the balance of a line

`Balance.of` counts, for each kind of bracket, how many more are opened than closed on a line.  A
scanner skips string literals: a literal begins at a quote and ends at the next quote of the same
kind that no backslash precedes.
-/

namespace Semicolon

/-- The three kinds of quotes. -/
def quotes : List Char := ['"', '\'', '`']

/-- Opened minus closed brackets, by kind. -/
structure Balance where
  parens : Int
  brackets : Int
  braces : Int
  deriving DecidableEq, Repr

namespace Balance

def zero : Balance := ⟨0, 0, 0⟩

/-- Count one character outside of literals. -/
def count (b : Balance) : Char → Balance
  | '(' => { b with parens := b.parens + 1 }
  | ')' => { b with parens := b.parens - 1 }
  | '[' => { b with brackets := b.brackets + 1 }
  | ']' => { b with brackets := b.brackets - 1 }
  | '{' => { b with braces := b.braces + 1 }
  | '}' => { b with braces := b.braces - 1 }
  | _   => b

/-- Where the scanner stands. -/
inductive Place where
  /-- Outside of literals. -/
  | code
  /-- In a literal that `quote` began. -/
  | literal (quote : Char)
  /-- In a literal, behind a backslash. -/
  | escaped (quote : Char)
  deriving DecidableEq, Repr

/-- Where the scanner stands after one more character. -/
def Place.next (c : Char) : Place → Place
  | .code          => if quotes.contains c then .literal c else .code
  | .literal quote =>
    if c = '\\' then .escaped quote else if c = quote then .code else .literal quote
  | .escaped quote => .literal quote

/-- The balance of a text read from a place on, added to `b`. -/
def scan : Place → Balance → Text → Balance
  | _,     b, []     => b
  | place, b, c :: t => scan (place.next c) (if place = .code then b.count c else b) t

/-- The balance of a line. -/
def of (line : Text) : Balance := scan .code zero line

/-- Some kind of bracket is opened more often than closed. -/
def hasUnclosed (b : Balance) : Bool := b.parens > 0 || b.brackets > 0 || b.braces > 0

end Balance

end Semicolon
