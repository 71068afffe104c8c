import Semicolon.Pattern.Matching

/-!
# Rules — named line shapes

A rule is a name and a pattern.  A table of rules is read in order, and the first rule that accepts
the line names the reason of the decision.
-/

namespace Semicolon

/-- A named line shape. -/
structure Rule where
  name : String
  pattern : Pattern
  deriving DecidableEq, Repr

namespace Rule

/-- The line begins with the shape. -/
def accepts (r : Rule) (line : Text) : Bool := r.pattern.opens line

/-- The first rule that accepts the line. -/
def first? (rules : List Rule) (line : Text) : Option Rule := rules.find? (·.accepts line)

end Rule

end Semicolon
