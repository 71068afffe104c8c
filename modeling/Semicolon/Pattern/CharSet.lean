import Semicolon.Text.Blank
import Semicolon.Text.Word

/-!
# Pattern — sets of characters

A pattern reads one character at a time from a `CharSet`, which is data: two sets can be compared,
and a character can be looked up in one.
-/

namespace Semicolon

open Text (isWord isBlank)

/-- One part of a set of characters. -/
inductive CharSet.Part where
  | one (c : Char)
  | range (first last : Char)
  | word
  | blank
  deriving DecidableEq, Repr

def CharSet.Part.contains : CharSet.Part → Char → Bool
  | .one d,            c => c == d
  | .range first last, c => first ≤ c && c ≤ last
  | .word,             c => isWord c
  | .blank,            c => isBlank c

/-- The characters in one of the parts, or, for an `inverted` set, those in none of them. -/
structure CharSet where
  parts : List CharSet.Part
  inverted : Bool
  deriving DecidableEq, Repr

namespace CharSet

def contains (s : CharSet) (c : Char) : Bool := (s.parts.any (·.contains c)) != s.inverted

/-- The characters of a string. -/
def of (s : String) : CharSet := ⟨s.toList.map .one, false⟩

/-- All characters but those of a string. -/
def but (s : String) : CharSet := ⟨s.toList.map .one, true⟩

/-- Word characters, and the characters of a string. -/
def wordOr (s : String) : CharSet := ⟨.word :: s.toList.map .one, false⟩

/-- Word characters, blanks, and the characters of a string. -/
def wordBlankOr (s : String) : CharSet := ⟨.word :: .blank :: s.toList.map .one, false⟩

/-- Blanks, and the characters of a string. -/
def blankOr (s : String) : CharSet := ⟨.blank :: s.toList.map .one, false⟩

def word : CharSet := wordOr ""

def blank : CharSet := blankOr ""

def nonBlank : CharSet := ⟨[.blank], true⟩

/-- The capital letters `A` to `Z`, and the characters of a string. -/
def capitalOr (s : String) : CharSet := ⟨.range 'A' 'Z' :: s.toList.map .one, false⟩

/-- The letters `A` to `Z` and `a` to `z`. -/
def letter : CharSet := ⟨[.range 'A' 'Z', .range 'a' 'z'], false⟩

/-- Any character that does not end the line. -/
def inLine : CharSet := but "\n"

end CharSet

end Semicolon
