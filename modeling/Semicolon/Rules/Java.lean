import Semicolon.Rules.Shared

/-!
# Rules — Java
-/

namespace Semicolon.Rules.Java

open Pattern

def controlKeywords : List String := ["synchronized"]

/-- The keywords that head a type. -/
def typeKeyword : Pattern := keyword ["class", "interface", "enum", "record", "@interface"]

/-- A primitive type, or a capitalised name with type arguments. -/
def typeName (others : List String) : Pattern :=
  oneOf ((others ++ ["boolean", "byte", "char", "short", "int", "long", "float", "double"]).map word
    ++ [CharSet.capitalOr "" ++ many (CharSet.wordOr "$") ++ optional ("<" ++ rest ++ ">")])

/-- The brackets of an array type. -/
def arrayMarks : Pattern := many "[]"

/-- The exceptions that a method declares. -/
def thrown : Pattern :=
  optional (blanks ++ "throws" ++ blanks1 ++ many1 (CharSet.wordBlankOr "$.,"))

/-- The shape of a line that declares a type or a member. -/
def declaration : Pattern :=
  oneOf [
    many (modifier ["public", "private", "protected", "static", "final", "abstract", "sealed",
      "synchronized", "native", "default"]) ++ typeKeyword,
    keyword ["public", "private", "protected", "static", "final", "abstract", "synchronized",
      "native"]]

def suppress : List Rule := [
  ⟨"type-header",
    many (modifier ["public", "private", "protected", "static", "final", "abstract", "sealed",
      "non-sealed", "strictfp"]) ++ typeKeyword⟩,
  ⟨"annotation", "@" ++ many1 (CharSet.wordOr ".") ++ arguments ++ lineEnd⟩,
  ⟨"method-header",
    many (modifier ["public", "private", "protected", "static", "final", "abstract",
      "synchronized", "native", "default", "strictfp"])
    ++ optional ("<" ++ rest1 ++ ">" ++ blanks1) ++ typeName ["void"] ++ arrayMarks ++ blanks1
    ++ many1 (CharSet.wordOr "$") ++ blanks ++ parenthesised ++ thrown ++ lineEnd⟩,
  ⟨"constructor-header",
    modifier ["public", "private", "protected"] ++ CharSet.capitalOr "" ++ many (CharSet.wordOr "$")
    ++ blanks ++ parenthesised ++ thrown ++ lineEnd⟩]

def require : List Rule := [
  ⟨"import", modifier ["import", "package"] ++ many1 (CharSet.wordBlankOr "$.*") ++ lineEnd⟩,
  ⟨"field-declaration",
    many1 (modifier ["public", "private", "protected", "static", "final", "transient", "volatile"])
    ++ CharSet.nonBlank ++ rest ++ lineEnd⟩,
  ⟨"local-declaration",
    optional (modifier ["final"]) ++ typeName ["var"] ++ arrayMarks ++ blanks1
    ++ many1 (CharSet.wordOr "$") ++ many (blanks ++ "," ++ blanks ++ many1 (CharSet.wordOr "$"))
    ++ optional (blanks ++ "=" ++ rest1) ++ lineEnd⟩,
  ⟨"assert", modifier ["assert"] ++ CharSet.nonBlank ++ rest ++ lineEnd⟩,
  ⟨"yield", modifier ["yield"] ++ CharSet.nonBlank ++ rest ++ lineEnd⟩]

end Semicolon.Rules.Java
