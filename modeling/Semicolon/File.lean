import Semicolon.FilePath

/-!
# File — named bytes
-/

namespace Semicolon

/-- Why a file cannot be read as a text. -/
inductive FileError where
  | notFound
  | notUtf8
  deriving DecidableEq, Repr

def FileError.message : FileError → String
  | .notFound => "No such file or directory (os error 2)"
  | .notUtf8  => "stream did not contain valid UTF-8"

/-- A path and the bytes of the file there, if there is one. -/
structure File where
  path : String
  bytes? : Option ByteArray

namespace File

/-- The text of the file. -/
def read (f : File) : Except FileError Text :=
  match f.bytes? with
  | none       => .error .notFound
  | some bytes =>
    match String.fromUTF8? bytes with
    | none   => .error .notUtf8
    | some s => .ok s.toList

end File

end Semicolon
