import Semicolon.Text.Basic

/-!
# Event — positions and the changes an editor reports

Lines and columns count from zero, and a column counts characters, not bytes.  An event carries all
changes of a document, but only the first one is ever looked at.
-/

namespace Semicolon

/-- A place in a document. -/
structure Position where
  line : Nat
  column : Nat
  deriving DecidableEq, Repr

/-- The part of a document between two places. -/
structure Range where
  start : Position
  stop : Position
  deriving DecidableEq, Repr

/-- The empty part at one place. -/
def Range.empty (p : Position) : Range := ⟨p, p⟩

/-- A replaced part and the text that took its place. -/
structure Change where
  range : Range
  text : Text
  deriving DecidableEq, Repr

namespace Change

/-- The change that types a text at a place. -/
def insertion (p : Position) (text : Text) : Change := ⟨.empty p, text⟩

/-- The change types one line break and nothing else. -/
def isBareNewline (c : Change) : Bool := c.text = ['\n'] || c.text = ['\r', '\n']

end Change

/-- What an editor reports about a document. -/
structure Event where
  document : String
  changes : List Change
  deriving DecidableEq, Repr

namespace Event

/-- The report of typing a text at a place. -/
def typed (document : String) (p : Position) (text : Text) : Event :=
  ⟨document, [.insertion p text]⟩

/-- The change that decides about the event. -/
def firstChange? (e : Event) : Option Change := e.changes.head?

end Event

end Semicolon
