import Semicolon.Pattern.CharSet

/-!
# Pattern — line shapes as data

A pattern describes how a line may begin.  Besides the regular operations it has two tests that
read nothing: `wordEdge` holds between a word character and anything else, and `lineEnd` holds
where no character follows.  A string stands for itself, `p ++ q` reads `p` and then `q`, and
`oneOf` chooses.
-/

namespace Semicolon

inductive Pattern where
  /-- Reads nothing. -/
  | empty
  /-- Reads one character of a set. -/
  | set (s : CharSet)
  /-- Reads nothing, between a word character and a character that is none or no character. -/
  | wordEdge
  /-- Reads nothing, where the text ends. -/
  | lineEnd
  /-- Reads the first pattern and then the second. -/
  | seq (p q : Pattern)
  /-- Reads one of two patterns. -/
  | alt (p q : Pattern)
  /-- Reads a pattern any number of times. -/
  | star (p : Pattern)
  deriving DecidableEq, Repr

namespace Pattern

/-- Reads the characters of a text. -/
def literal : Text → Pattern
  | []     => .empty
  | [c]    => .set ⟨[.one c], false⟩
  | c :: t => .seq (.set ⟨[.one c], false⟩) (literal t)

/-- Reads the characters of a string. -/
def word (s : String) : Pattern := literal s.toList

instance : Coe String Pattern := ⟨word⟩

instance : Coe CharSet Pattern := ⟨.set⟩

instance : Append Pattern := ⟨.seq⟩

/-- Reads one of the patterns; with none to choose from it reads nothing at all. -/
def oneOf : List Pattern → Pattern
  | []      => .set (.of "")
  | [p]     => p
  | p :: ps => .alt p (oneOf ps)

/-- Reads the pattern or nothing. -/
def optional (p : Pattern) : Pattern := .alt p .empty

/-- Reads the pattern any number of times. -/
def many (p : Pattern) : Pattern := .star p

/-- Reads the pattern at least once. -/
def many1 (p : Pattern) : Pattern := p ++ p.many

/-! ### Pieces of lines -/

/-- Any number of blanks. -/
def blanks : Pattern := many CharSet.blank

/-- At least one blank. -/
def blanks1 : Pattern := many1 CharSet.blank

/-- Anything up to the end of the line. -/
def rest : Pattern := many CharSet.inLine

/-- Anything up to the end of the line, but not nothing. -/
def rest1 : Pattern := many1 CharSet.inLine

/-- One of the words, followed by blanks. -/
def modifier (words : List String) : Pattern := oneOf (words.map word) ++ blanks1

/-- One of the words, up to an edge of a word. -/
def keyword (words : List String) : Pattern := oneOf (words.map word) ++ wordEdge

/-- Round brackets around anything. -/
def parenthesised : Pattern := "(" ++ rest ++ ")"

end Pattern

end Semicolon
