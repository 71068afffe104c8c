import Semicolon.Event
import Semicolon.Text.Blank
import Semicolon.Text.Lines

/-!
# Document — an open text

A document is read by lines: a line ends before a line feed and before one carriage return in front
of it.  A place is turned into a byte offset; columns past the end of a line and lines past the end
of the text stay at that end, and no offset lies behind the carriage returns that end a line.

* `Document.check?` says which places an edit may use: those of existing lines, up to the number of
  characters of the line.
* `Document.insert` and `Document.remove` work at the byte offset of a place.
-/

namespace Semicolon

/-- Why a document refuses an edit. -/
inductive Rejection where
  /-- The column lies past the end of its line. -/
  | columnPastEnd (place : Position) (length : Nat)
  /-- The line lies past the end of the document. -/
  | linePastEnd (line lineCount : Nat)
  /-- The document takes no insertions. -/
  | readOnly (document : String)
  deriving DecidableEq, Repr

def Rejection.message : Rejection → String
  | .columnPastEnd p length =>
    "column " ++ toString p.column ++ " past end of line " ++ toString p.line ++ " ("
      ++ toString length ++ " chars)"
  | .linePastEnd line lineCount =>
    "line " ++ toString line ++ " past end of document (" ++ toString lineCount ++ " lines)"
  | .readOnly document => document ++ " is read-only"

/-- An open document. -/
structure Document where
  languageId : String
  text : Text
  deriving DecidableEq, Repr

namespace Document

open Text

/-! ### Lines and offsets -/

/-- The number of lines; an empty document has one. -/
def lineCount (d : Document) : Nat := (pieces d.text).length

/-- The text of a line without its line break. -/
def line? (d : Document) (line : Nat) : Option Text := (pieces d.text)[line]?.map dropReturn

/-- The number of characters of a line; a line that does not exist has none. -/
def lineLength (d : Document) (line : Nat) : Nat := ((d.line? line).map List.length).getD 0

/-- The byte offset of a column, which stays in front of the carriage returns at the end. -/
def columnOffset (piece : Text) (column : Nat) : Nat :=
  byteSize ((dropEndWhile (· = '\r') piece).take column)

/-- The byte offset of a place in a text that is given by its pieces. -/
def offsetInPieces : List Text → Nat → Nat → Nat
  | [],               _,        _      => 0
  | piece :: _,       0,        column => columnOffset piece column
  | [piece],          _ + 1,    _      => byteSize piece
  | piece :: p :: ps, line + 1, column =>
    byteSize piece + 1 + offsetInPieces (p :: ps) line column

/-- The byte offset of a place. -/
def offsetAt (d : Document) (p : Position) : Nat := offsetInPieces (pieces d.text) p.line p.column

/-! ### Edits -/

/-- Why the place is not one of the document, if it is not. -/
def check? (d : Document) (p : Position) : Option Rejection :=
  match d.line? p.line with
  | none      => some (.linePastEnd p.line d.lineCount)
  | some line => if p.column ≤ line.length then none else some (.columnPastEnd p line.length)

/-- The document with a text put in at a byte offset. -/
def insertBytes (d : Document) (offset : Nat) (text : Text) : Document :=
  { d with text := d.text.takeBytes offset ++ text ++ d.text.dropBytes offset }

/-- The document with a text put in at a place. -/
def insert (d : Document) (p : Position) (text : Text) : Except Rejection Document :=
  match d.check? p with
  | some rejection => .error rejection
  | none           => .ok (d.insertBytes (d.offsetAt p) text)

/-- The document without a text that begins at a place.  If another text stands there, nothing is
removed. -/
def remove (d : Document) (p : Position) (text : Text) : Document :=
  let offset := d.offsetAt p
  let tail := d.text.dropBytes offset
  if startsWith tail text then
    { d with text := d.text.takeBytes offset ++ tail.drop text.length }
  else d

end Document

end Semicolon
