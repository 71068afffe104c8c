import Semicolon.Text.Basic

/-!
# Text — lines

Two ways to read a text as lines.

* `pieces` cuts at every line feed: a text with `n` line feeds has `n + 1` pieces, so it has at
  least one, and a text that ends in a line feed has an empty last piece.
* `fileLines` is what a file holds: a line feed, with the carriage return in front of it, ends a
  line, and what follows the last line feed is a line only if it is not empty.
-/

namespace Semicolon.Text

/-- The pieces of a text between its line feeds. -/
def pieces : Text → List Text
  | []        => [[]]
  | '\n' :: t => [] :: pieces t
  | c :: t    =>
    match pieces t with
    | []          => [[c]]
    | piece :: ps => (c :: piece) :: ps

/-- The text without one carriage return at its end. -/
def dropReturn (t : Text) : Text :=
  if t.getLast? = some '\r' then t.dropLast else t

/-- The lines of a file.  Only a line that ends in a line feed loses its carriage return. -/
def linesOfPieces : List Text → List Text
  | []          => []
  | [piece]     => if piece.isEmpty then [] else [piece]
  | piece :: ps => dropReturn piece :: linesOfPieces ps

/-- The lines of a file with this text. -/
def fileLines (t : Text) : List Text := linesOfPieces (pieces t)

theorem pieces_ne_nil (t : Text) : pieces t ≠ [] := by
  fun_cases pieces t <;> simp

end Semicolon.Text
