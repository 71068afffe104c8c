import Semicolon.Rules.Basic

/-!
# Rules — shapes that all languages share

The shared suppressing rules come before those of a language, the shared requiring rules after
them.
-/

namespace Semicolon.Rules

open Pattern

/-- The characters of a plain target such as `xs[i].y` or `p->q`. -/
def targetChars : CharSet := .wordOr "$.[]>-"

/-- A plain target. -/
def target : Pattern := many1 targetChars

/-- `++` or `--`. -/
def step : Pattern := oneOf ["++", "--"]

/-- The assignment of a value that does not begin with `=`, possibly with an operator in front. -/
def assigned : Pattern :=
  optional (CharSet.of "-+*/%&|^") ++ "=" ++ CharSet.but "=" ++ rest

/-- A statement that leaves: `return` or `throw` with a value, `break` or `continue`. -/
def leaving : Pattern :=
  oneOf [keyword ["return"] ++ rest, keyword ["throw"] ++ rest, "break", "continue"]

def sharedSuppress : List Rule := [
  ⟨"block-close", "\x7d" ++ lineEnd⟩,
  ⟨"block-continue", "\x7d" ++ blanks ++ keyword ["else", "catch", "finally"]⟩,
  ⟨"case-label", oneOf [keyword ["case"] ++ rest, "default"] ++ blanks ++ ":" ++ lineEnd⟩]

/-- A body on the line of its `if`, `while` or `for`. -/
def headedBody : Pattern :=
  oneOf ["if", "while", "for"] ++ blanks ++ parenthesised ++ blanks
    ++ oneOf [leaving, target ++ blanks ++ oneOf [assigned, step]]

/-- A body on the line of its `else`. -/
def elseBody : Pattern :=
  "else" ++ blanks1
    ++ oneOf [leaving, target ++ blanks ++ oneOf [parenthesised, assigned, step]]

/-- The operators in front of the `=` of an assignment. -/
def assignmentOperator : Pattern :=
  oneOf [CharSet.of "-+*/%&|^", "<<", ">>", ">>>", "**", "??", "&&", "||"]

def sharedRequire : List Rule := [
  ⟨"exit", keyword ["return", "throw", "break", "continue"] ++ rest ++ lineEnd⟩,
  ⟨"do-while-tail", "\x7d" ++ blanks ++ "while" ++ blanks ++ parenthesised ++ lineEnd⟩,
  -- A header that ends in `)` awaits its body and never gets here.
  ⟨"inline-body", oneOf [headedBody, elseBody] ++ lineEnd⟩,
  ⟨"update", oneOf [step ++ target, target ++ step] ++ lineEnd⟩,
  ⟨"assignment", many1 (CharSet.wordOr "$.:[]()'\"*>-") ++ blanks ++ optional assignmentOperator
    ++ "=" ++ CharSet.but "=>" ++ rest ++ lineEnd⟩,
  ⟨"call", optional (modifier ["await", "new"]) ++ many1 (CharSet.wordOr "$.:[]<>?!-") ++ blanks
    ++ parenthesised ++ lineEnd⟩,
  ⟨"member", many1 (CharSet.wordOr "$")
    ++ many1 (oneOf ["?.", ".", "->", "::"] ++ many1 (CharSet.wordOr "$")) ++ lineEnd⟩,
  ⟨"closer", many (CharSet.of ")]\x7d") ++ CharSet.of ")]" ++ lineEnd⟩]

/-- The arguments of a decorator or attribute, if it has any. -/
def arguments : Pattern := optional parenthesised

end Semicolon.Rules
