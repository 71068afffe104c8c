import Semicolon.Language
import Semicolon.Text.Blank

/-!
# Comment — is a place inside a comment, and what is a line without its comments?

The marks are those of the C family.  Both questions look at one line only, so a block comment that
was opened on an earlier line is seen just by a leading `*`.
-/

namespace Semicolon.Comment

open Text

/-- The mark of a comment up to the end of the line. -/
def lineMark : Text := ['/', '/']

/-- The mark that opens a block comment. -/
def openMark : Text := ['/', '*']

/-- The mark that closes a block comment. -/
def closeMark : Text := ['*', '/']

/-! ### Places -/

/-- The part of the text behind its last line feed. -/
def lastLine (t : Text) : Text := (t.reverse.takeWhile (· ≠ '\n')).reverse

/-- The end of a line is inside a comment: the line begins with `*`, or holds a line mark, or its
last block comment is not closed. -/
def endsInside (line : Text) : Bool :=
  startsWith line.trimStart ['*'] || line.containsMark lineMark ||
    match splitLast? openMark line with
    | some (_, body) => !body.containsMark closeMark
    | none           => false

/-- The byte offset is inside a comment, judged from its line. -/
def isInside (t : Text) (offset : Nat) : Bool := endsInside (lastLine (t.takeBytes offset))

/-- A comment leads the line: it begins with one of the marks, or with a `*` of a block comment. -/
def leads (line : Text) : Bool :=
  startsWith line lineMark || startsWith line openMark || startsWith line ['*']

/-! ### Stripping -/

/-- The text in front of the first line mark. -/
def cutLine (line : Text) : Text :=
  match splitFirst? lineMark line with
  | some (before, _) => before
  | none             => line

/-- The text without its first block comment; one that is not closed reaches to the end. -/
def cutBlock (line : Text) : Text :=
  match splitFirst? openMark line with
  | none                => line
  | some (before, body) =>
    match splitFirst? closeMark body with
    | some (_, behind) => before ++ behind
    | none             => before

/-- The line without its line comment and then without its first block comment. -/
def strip (line : Text) : Text := cutBlock (cutLine line)

/-- The line without comments, if the editor's language is a supported one. -/
def stripFor (languageId : String) (line : Text) : Text :=
  if (Language.ofId? languageId).isSome then strip line else line

end Semicolon.Comment
