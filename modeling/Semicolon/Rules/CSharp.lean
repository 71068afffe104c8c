import Semicolon.Rules.Shared

/-!
# Rules — C#
-/

namespace Semicolon.Rules.CSharp

open Pattern

def controlKeywords : List String := ["foreach", "lock", "fixed"]

def headerKeywords : List String := ["foreach", "lock", "using", "fixed"]

/-- A built-in type, or a capitalised name with type arguments; possibly an array, possibly
nullable. -/
def typeName (others : List String) : Pattern :=
  oneOf ((others ++ ["bool", "byte", "sbyte", "char", "decimal", "double", "float", "int", "uint",
      "long", "ulong", "short", "ushort", "object", "string", "dynamic"]).map word
    ++ [CharSet.capitalOr "" ++ many CharSet.word ++ optional ("<" ++ rest ++ ">")])
  ++ many "[]" ++ optional "?"

/-- One attribute, with its arguments. -/
def attribution : Pattern := CharSet.letter ++ many (CharSet.wordOr ".") ++ arguments

/-- The shape of a line that declares a type or a member. -/
def declaration : Pattern :=
  oneOf [
    many (modifier ["public", "private", "protected", "internal", "static", "abstract", "sealed",
      "partial", "readonly", "ref", "unsafe", "file", "virtual", "override", "async", "extern",
      "new"])
      ++ keyword ["class", "struct", "interface", "enum", "namespace", "record", "delegate"],
    keyword ["public", "private", "protected", "internal", "static", "abstract", "sealed",
      "partial", "virtual", "override", "async"]]

def suppress : List Rule := [
  ⟨"type-header",
    many (modifier ["public", "private", "protected", "internal", "static", "abstract", "sealed",
      "partial", "readonly", "ref", "unsafe", "file", "new"])
    ++ keyword ["class", "struct", "interface", "enum", "namespace", "record"]⟩,
  ⟨"attribute",
    "[" ++ attribution ++ many (blanks ++ "," ++ blanks ++ attribution) ++ "]" ++ lineEnd⟩,
  ⟨"preprocessor", "#"⟩,
  ⟨"accessor",
    optional (modifier ["public", "private", "protected", "internal"])
    ++ oneOf ["get", "set", "init", "add", "remove"] ++ lineEnd⟩,
  ⟨"method-header",
    many (modifier ["public", "private", "protected", "internal", "static", "virtual", "override",
      "abstract", "async", "sealed", "partial", "extern", "unsafe", "new"])
    ++ typeName ["void"] ++ blanks1 ++ CharSet.capitalOr "_" ++ many CharSet.word ++ blanks
    ++ optional ("<" ++ rest ++ ">") ++ parenthesised
    ++ optional (blanks ++ "where" ++ blanks1 ++ rest1) ++ lineEnd⟩,
  ⟨"constructor-header",
    modifier ["public", "private", "protected", "internal", "static"]
    ++ CharSet.capitalOr "" ++ many CharSet.word ++ blanks ++ parenthesised
    ++ optional (blanks ++ ":" ++ blanks ++ oneOf ["base", "this"] ++ blanks ++ parenthesised)
    ++ lineEnd⟩]

def require : List Rule := [
  ⟨"using-directive",
    optional (modifier ["global"]) ++ modifier ["using"] ++ optional (modifier ["static"])
    ++ many1 (CharSet.wordOr ".")
    ++ optional (blanks ++ "=" ++ blanks ++ many1 (CharSet.wordBlankOr ".<>,")) ++ lineEnd⟩,
  ⟨"using-declaration",
    modifier ["using"] ++ modifier ["var"] ++ many1 CharSet.word ++ blanks ++ "=" ++ rest1
    ++ lineEnd⟩,
  ⟨"field-declaration",
    many1 (modifier ["public", "private", "protected", "internal", "static", "readonly", "const",
      "volatile", "new", "required", "event"])
    ++ CharSet.nonBlank ++ rest ++ lineEnd⟩,
  ⟨"local-declaration",
    optional (modifier ["const"]) ++ typeName ["var"] ++ blanks1 ++ many1 CharSet.word
    ++ optional (blanks ++ "=" ++ rest1) ++ lineEnd⟩,
  ⟨"yield", modifier ["yield"] ++ oneOf [keyword ["return"] ++ rest, "break"] ++ lineEnd⟩,
  ⟨"await", modifier ["await"] ++ CharSet.nonBlank ++ rest ++ lineEnd⟩]

end Semicolon.Rules.CSharp
