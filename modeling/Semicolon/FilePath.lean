import Semicolon.Language

/-!
# FilePath — names and extensions

The name of a file is the last component of its path; components that are empty or a single point
at the end of the path do not count.  The extension follows the last point of the name, unless that
point is its first character.
-/

namespace Semicolon.FilePath

/-- The components of a path, between its slashes. -/
def components : Text → List Text
  | []       => [[]]
  | '/' :: t => [] :: components t
  | c :: t   =>
    match components t with
    | []      => [[c]]
    | d :: ds => (c :: d) :: ds

/-- The name of the file; a path that ends at a directory above has none. -/
def name? (path : Text) : Option Text :=
  match (components path).reverse.dropWhile fun c => c = [] || c = ['.'] with
  | []     => none
  | c :: _ => if c = ['.', '.'] then none else some c

/-- The extension of the file. -/
def extension? (path : Text) : Option Text := do
  let name ← name? path
  match Text.splitLast? ['.'] name with
  | some (_ :: _, extension) => some extension
  | _                        => none

end FilePath

/-- The language of the file at a path, by its extension. -/
def Language.ofPath? (path : String) : Option Language := do
  let extension ← FilePath.extension? path.toList
  ofExtension? (String.ofList extension)

end Semicolon
