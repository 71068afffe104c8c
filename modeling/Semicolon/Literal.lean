import Semicolon.Delimiters

/-!
# Literal — is a place inside a string?

Quotes are counted, not read: a place is inside a string if, before it, some kind of quote stands an
odd number of times.  A quote right behind a backslash does not count.
-/

namespace Semicolon.Literal

/-- How often `quote` stands in the text without a backslash right before it; `before` is the
character in front of the text. -/
def unescapedCount (quote : Char) : Option Char → Text → Nat
  | _,      []     => 0
  | before, c :: t =>
    (if c = quote ∧ before ≠ some '\\' then 1 else 0) + unescapedCount quote (some c) t

/-- The end of the text is inside a string. -/
def endsInside (t : Text) : Bool := quotes.any fun quote => unescapedCount quote none t % 2 = 1

/-- The byte offset is inside a string. -/
def isInside (t : Text) (offset : Nat) : Bool := endsInside (t.takeBytes offset)

end Semicolon.Literal
