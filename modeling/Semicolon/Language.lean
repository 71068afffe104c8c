import Semicolon.Text.Basic

/-!
# Language — the supported languages

A language is known by the identifier an editor uses for it and by the extensions of its files.
All five end a statement with a semicolon.
-/

namespace Semicolon

inductive Language where
  | javaScript
  | typeScript
  | java
  | cSharp
  | cpp
  deriving DecidableEq, Repr

namespace Language

def all : List Language := [.javaScript, .typeScript, .java, .cSharp, .cpp]

/-- The identifier of the language in an editor. -/
def id : Language → String
  | .javaScript => "javascript"
  | .typeScript => "typescript"
  | .java       => "java"
  | .cSharp     => "csharp"
  | .cpp        => "cpp"

/-- The language with this identifier. -/
def ofId? (s : String) : Option Language := all.find? (·.id = s)

theorem ofId?_id (l : Language) : ofId? l.id = some l := by cases l <;> decide

/-- The extensions of the files of the language. -/
def extensions : Language → List String
  | .javaScript => ["js", "mjs", "cjs", "jsx"]
  | .typeScript => ["ts", "mts", "cts", "tsx"]
  | .java       => ["java"]
  | .cSharp     => ["cs"]
  | .cpp        => ["cpp", "cc", "cxx", "hpp", "hh", "hxx"]

/-- The language of an extension, in upper or lower case.  Only the ASCII letters have to be
lowered: outside ASCII just the Kelvin sign and the dotted capital I lower to a plain letter, and no
extension has a `k` or an `i`. -/
def ofExtension? (extension : String) : Option Language :=
  all.find? (·.extensions.contains (extension.map Char.toLower))

/-- The character that ends a statement. -/
def terminator : Language → Char := fun _ => ';'

end Language

end Semicolon
