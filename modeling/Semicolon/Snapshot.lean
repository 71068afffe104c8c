import Semicolon.Comment
import Semicolon.Event

/-!
# Snapshot — the line that a decision is about
-/

namespace Semicolon

/-- A line as it stood when its line break was typed. -/
structure Snapshot where
  /-- The line as the document holds it. -/
  raw : Text
  /-- The line without blanks at its ends. -/
  trimmed : Text
  /-- The line without comments and without blanks at its ends. -/
  stripped : Text
  line : Nat
  /-- The byte offset of the end of the line in its document. -/
  endOffset : Nat
  /-- The end of the line, where a terminator goes. -/
  endPosition : Position
  deriving DecidableEq, Repr

namespace Snapshot

/-- The snapshot of a line; `uncommented` is the line after its comments were removed. -/
def of (raw uncommented : Text) (line endOffset : Nat) : Snapshot where
  raw         := raw
  trimmed     := raw.trim
  stripped    := uncommented.trim
  line        := line
  endOffset   := endOffset
  endPosition := ⟨line, raw.length⟩

/-- The line begins with a comment mark. -/
def isCommentLine (s : Snapshot) : Bool := Comment.leads s.trimmed

end Snapshot

end Semicolon
