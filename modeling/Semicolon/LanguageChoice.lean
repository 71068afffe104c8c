import Semicolon.FilePath

/-!
# LanguageChoice — the language of a file or a line

An identifier that is given decides; without one the extension of the file does.
-/

namespace Semicolon

/-- Why no language could be chosen. -/
inductive ChoiceError where
  | unsupported (id : String)
  /-- The path, if there is one, has no extension of a supported language. -/
  | notInferable (path? : Option String)
  deriving DecidableEq, Repr

def ChoiceError.message : ChoiceError → String
  | .unsupported id      => "Unsupported language: " ++ id
  | .notInferable path? =>
    "Cannot infer language for " ++ path?.getD "" ++ "; pass --language"

/-- The language with an identifier, or else the language of a path. -/
def Language.choose (id? path? : Option String) : Except ChoiceError Language :=
  match id? with
  | some id =>
    match ofId? id with
    | some l => .ok l
    | none   => .error (.unsupported id)
  | none =>
    match path? >>= ofPath? with
    | some l => .ok l
    | none   => .error (.notInferable path?)

end Semicolon
