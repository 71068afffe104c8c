import Semicolon.Rules.Shared

/-!
# Rules — C++
-/

namespace Semicolon.Rules.Cpp

open Pattern

/-- A name in a named scope, such as `std::string`. -/
def scopedName : Pattern := many1 CharSet.word ++ "::" ++ many1 (CharSet.wordOr ":")

/-- A capitalised name. -/
def capitalised : Pattern := CharSet.capitalOr "" ++ many CharSet.word

/-- Template arguments, if there are any. -/
def templateArguments : Pattern := optional (blanks ++ "<" ++ rest ++ ">")

/-- The shape of a line that declares a type, or that sets the access of members. -/
def declaration : Pattern :=
  oneOf [
    optional ("template" ++ blanks ++ "<" ++ rest ++ ">" ++ blanks)
      ++ keyword ["class", "struct", "union", "enum", "namespace"],
    oneOf ["public", "private", "protected"] ++ blanks ++ ":"]

def suppress : List Rule := [
  ⟨"preprocessor", "#"⟩,
  ⟨"template", "template" ++ blanks ++ "<" ++ rest ++ ">" ++ lineEnd⟩,
  ⟨"type-header",
    optional (modifier ["typedef"])
    ++ oneOf ["class", "struct", "union", "enum" ++ optional (blanks1 ++ "class"), "namespace"]
    ++ wordEdge ++ many (CharSet.but "=") ++ lineEnd⟩,
  ⟨"access-label", oneOf ["public", "private", "protected"] ++ blanks ++ ":" ++ lineEnd⟩,
  ⟨"function-header",
    many (modifier ["static", "inline", "virtual", "explicit", "constexpr", "consteval", "extern",
      "friend"])
    ++ optional (modifier ["const"]) ++ optional (modifier ["unsigned", "signed"])
    ++ oneOf ["void", "bool", "char", "short", "int", "long", "float", "double", "auto", "size_t",
      scopedName, capitalised]
    ++ templateArguments ++ many1 (CharSet.blankOr "*&") ++ many1 (CharSet.wordOr ":~") ++ blanks
    ++ "(" ++ many (CharSet.but ";") ++ ")" ++ blanks ++ optional "const" ++ blanks
    ++ optional "noexcept" ++ blanks ++ optional (oneOf ["override", "final"]) ++ blanks
    ++ optional ("->" ++ blanks ++ many1 (CharSet.wordOr ":<>*&")) ++ lineEnd⟩]

def require : List Rule := [
  ⟨"using", modifier ["using", "typedef"] ++ CharSet.nonBlank ++ rest ++ lineEnd⟩,
  ⟨"stream", many1 (CharSet.wordOr ":.>[]-") ++ blanks ++ oneOf ["<<", ">>"] ++ blanks
    ++ CharSet.nonBlank ++ rest ++ lineEnd⟩,
  ⟨"local-declaration",
    many (modifier ["const", "constexpr", "static", "unsigned", "signed", "volatile", "mutable",
      "thread_local"])
    ++ oneOf ["auto", "bool", "char", "short", "int", "long", "float", "double", "size_t",
      "wchar_t", scopedName, capitalised]
    ++ templateArguments ++ oneOf [blanks ++ many1 (CharSet.of "*&") ++ blanks, blanks1]
    ++ many1 CharSet.word ++ optional ("[" ++ rest ++ "]")
    ++ optional (oneOf [blanks ++ "=" ++ rest1, blanks ++ "\x7b" ++ rest ++ "\x7d",
      blanks ++ parenthesised])
    ++ lineEnd⟩,
  ⟨"delete", "delete" ++ optional "[]" ++ blanks1 ++ CharSet.nonBlank ++ rest ++ lineEnd⟩,
  ⟨"coroutine", "co_" ++ keyword ["return", "yield", "await"] ++ rest ++ lineEnd⟩,
  ⟨"goto", modifier ["goto"] ++ many1 CharSet.word ++ lineEnd⟩]

end Semicolon.Rules.Cpp
