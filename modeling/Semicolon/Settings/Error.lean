import Semicolon.File
import Semicolon.Json.Mismatch
import Semicolon.Json.Number
import Semicolon.Settings.Basic

/-!
# Settings — why settings cannot be used
-/

namespace Semicolon

inductive SettingsError where
  /-- The file cannot be read. -/
  | unreadable (error : FileError)
  /-- The text is not TOML, or a value has the wrong type. -/
  | malformedToml
  /-- The text is not JSON. -/
  | malformedJson (failure : Json.Failure)
  /-- A value in a JSON text has the wrong type. -/
  | mismatch (m : Json.Mismatch)
  /-- The JSON text holds something else than an object. -/
  | notAnObject
  /-- The delay of otherwise usable settings is too long. -/
  | delayTooLong (settings : Settings)
  deriving DecidableEq, Repr

namespace SettingsError

/-- The error that lies behind an error. -/
def cause? : SettingsError → Option String
  | .unreadable error             => some error.message
  | .malformedToml                => some "malformed text"
  | .malformedJson .unexpected    => some "unexpected character"
  | .malformedJson .endOfText     => some "unexpected end of text"
  | .mismatch m                   => some m.message
  | .notAnObject | .delayTooLong _ => none

/-- What the settings lack. -/
def message (e : SettingsError) : String :=
  let cause := e.cause?.getD ""
  match e with
  | .unreadable _                  => "IO error: " ++ cause
  | .malformedToml                 => "TOML config error: " ++ cause
  | .malformedJson _ | .mismatch _ => "JSON config error: " ++ cause
  | .notAnObject                   => "Invalid configuration: settings must be a JSON object"
  | .delayTooLong s                =>
    "Invalid configuration: debounceDelay (" ++ toString s.debounceDelay ++ ") cannot exceed "
      ++ toString Settings.maxDelay ++ " ms"

end SettingsError

end Semicolon
