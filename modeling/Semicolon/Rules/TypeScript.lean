import Semicolon.Rules.JavaScript

/-!
# Rules — TypeScript

TypeScript has its own suppressing rules, and adds requiring rules in front of those of JavaScript.
-/

namespace Semicolon.Rules.TypeScript

open Pattern JavaScript

/-- The shape of a line that declares a function, a class, a type or a module. -/
def declaration : Pattern :=
  exported ++ optional (modifier ["declare"]) ++ optional (modifier ["abstract"])
    ++ optional (modifier ["async"])
    ++ oneOf ["function" ++ optional "*", "class", "interface", "enum", "namespace", "module"]
    ++ wordEdge

/-- A class header. -/
def classHeader : Rule :=
  ⟨"class-header", exported ++ optional (modifier ["abstract"]) ++ keyword ["class"]⟩

/-- The header of a type or a module. -/
def typeHeader : Rule :=
  ⟨"type-header", optional (modifier ["export"]) ++ optional (modifier ["const"])
    ++ keyword ["interface", "enum", "namespace", "module"]⟩

def methodModifiers : List String :=
  ["public", "private", "protected", "static", "async", "override", "get", "set"]

/-- The header of a method with a modifier, possibly with its types. -/
def methodHeader : Rule :=
  ⟨"method-header",
    many1 (modifier methodModifiers) ++ optional "*" ++ many1 (CharSet.wordOr "$#") ++ blanks
    ++ optional ("<" ++ rest ++ ">") ++ parenthesised
    ++ optional (blanks ++ ":" ++ blanks ++ many1 (CharSet.but "=")) ++ lineEnd⟩

def suppress : List Rule := [functionHeader, classHeader, typeHeader, decorator, methodHeader]

def require : List Rule := [
  ⟨"type-alias", optional (modifier ["export"]) ++ optional (modifier ["declare"])
    ++ modifier ["type"] ++ many1 (CharSet.wordOr "$") ++ rest ++ "=" ++ rest1 ++ lineEnd⟩,
  ⟨"ambient", optional (modifier ["export"]) ++ modifier ["declare"]
    ++ keyword ["const", "let", "var", "function"] ++ rest ++ lineEnd⟩,
  ⟨"class-field",
    many1 (modifier ["public", "private", "protected", "static", "readonly", "declare", "override"])
    ++ many1 (CharSet.wordOr "$#") ++ optional (CharSet.of "?!") ++ blanks
    ++ optional (oneOf [":" ++ rest1, "=" ++ rest1]) ++ lineEnd⟩]

end Semicolon.Rules.TypeScript
