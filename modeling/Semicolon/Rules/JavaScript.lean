import Semicolon.Rules.Shared

/-!
# Rules — JavaScript
-/

namespace Semicolon.Rules.JavaScript

open Pattern

/-- `export` and `default`, each if it is there. -/
def exported : Pattern := optional (modifier ["export"]) ++ optional (modifier ["default"])

/-- The shape of a line that declares a function or a class. -/
def declaration : Pattern :=
  exported ++ optional (modifier ["async"]) ++ oneOf ["function" ++ optional "*", "class"]
    ++ wordEdge

/-- A function header, whichever language it is in. -/
def functionHeader : Rule :=
  ⟨"function-header", exported ++ optional (modifier ["async"]) ++ keyword ["function"]⟩

/-- A class header. -/
def classHeader : Rule := ⟨"class-header", exported ++ keyword ["class"]⟩

/-- A decorator such as `@Injectable()`. -/
def decorator : Rule := ⟨"decorator", "@" ++ many1 (CharSet.wordOr "$.") ++ arguments ++ lineEnd⟩

/-- The header of a method with a modifier. -/
def methodHeader : Rule :=
  ⟨"method-header", many1 (modifier ["static", "async", "get", "set"]) ++ optional "*"
    ++ many1 (CharSet.wordOr "$#") ++ blanks ++ parenthesised ++ lineEnd⟩

def suppress : List Rule := [functionHeader, classHeader, decorator, methodHeader]

def require : List Rule := [
  ⟨"declaration", optional (modifier ["export"]) ++ modifier ["const", "let", "var"]
    ++ CharSet.nonBlank ++ rest ++ lineEnd⟩,
  ⟨"module", keyword ["import", "export"] ++ rest ++ lineEnd⟩,
  ⟨"yield", keyword ["yield"] ++ rest ++ lineEnd⟩,
  ⟨"await", modifier ["await"] ++ CharSet.nonBlank ++ rest ++ lineEnd⟩,
  ⟨"new", modifier ["new"] ++ many1 (CharSet.wordOr "$.") ++ arguments ++ lineEnd⟩,
  ⟨"delete", modifier ["delete"] ++ CharSet.nonBlank ++ rest ++ lineEnd⟩,
  ⟨"debugger", "debugger" ++ lineEnd⟩,
  ⟨"directive",
    oneOf ["'" ++ many (CharSet.but "'") ++ "'", "\"" ++ many (CharSet.but "\"") ++ "\""]
    ++ lineEnd⟩]

end Semicolon.Rules.JavaScript
