import Semicolon.Pattern.Basic

/-!
# Pattern — matching

A line is read from left to right with the list of the patterns that the rest of the line may
still begin with.

* `Pattern.isDone`: a pattern may stop here, given the characters on both sides.
* `Pattern.after`: what is left of a pattern once it has read a character.  A pattern has finitely
  many such remainders, so the list stays short when equal ones are kept once.
* `Pattern.opens`: some beginning of the line is read to the end of the pattern.
-/

namespace Semicolon.Pattern

open Text (isWord)

/-- The pattern can stop reading between two characters. -/
def isDone (before next : Option Char) : Pattern → Bool
  | .empty    => true
  | .set _    => false
  | .wordEdge => before.any isWord != next.any isWord
  | .lineEnd  => next.isNone
  | .seq p q  => p.isDone before next && q.isDone before next
  | .alt p q  => p.isDone before next || q.isDone before next
  | .star _   => true

/-- `p` and then `q`, where an empty `p` is left out. -/
def andThen : Pattern → Pattern → Pattern
  | .empty, q => q
  | p,      q => .seq p q

/-- What is left of the pattern after it has read `c`. -/
def after (before : Option Char) (c : Char) : Pattern → List Pattern
  | .empty    => []
  | .set s    => if s.contains c then [.empty] else []
  | .wordEdge => []
  | .lineEnd  => []
  | .seq p q  =>
    let stepped := (p.after before c).map (andThen · q)
    if p.isDone before (some c) then stepped ++ q.after before c else stepped
  | .alt p q  => p.after before c ++ q.after before c
  | .star p   => (p.after before c).map (andThen · (.star p))

/-- The remainders of several patterns, each once. -/
def afterAll (before : Option Char) (c : Char) (ps : List Pattern) : List Pattern :=
  (ps.flatMap (after before c)).eraseDups

/-- One of the patterns reads a beginning of the text to its end. -/
def openAny (before : Option Char) : Text → List Pattern → Bool
  | _,      []      => false
  | [],     p :: ps => (p :: ps).any (isDone before none)
  | c :: t, p :: ps =>
    (p :: ps).any (isDone before (some c)) || openAny (some c) t (afterAll before c (p :: ps))

/-- The pattern reads a beginning of the line to its end. -/
def opens (p : Pattern) (line : Text) : Bool := openAny none line [p]

end Semicolon.Pattern
