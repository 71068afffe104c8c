import Semicolon.Settings.Reader

/-!
# Settings — where they come from

A file is JSON if its extension says so, in upper or lower case, and TOML otherwise.  Settings that
are given or read from a file are checked; those of another source are taken as they are.
-/

namespace Semicolon

/-- Where settings come from. -/
inductive Source where
  /-- Settings that are given. -/
  | fixed (s : Settings)
  | file (f : File)
  /-- Another source, by what a load of it gives. -/
  | other (result : Except SettingsError Settings)

namespace Source

/-- The file is read as JSON. -/
def isJson (path : String) : Bool :=
  match FilePath.extension? path.toList with
  | some extension => extension.map Char.toLower = "json".toList
  | none           => false

/-- The settings in a file. -/
def loadFile (f : File) : Except SettingsError Settings :=
  match f.read with
  | .error e => .error (.unreadable e)
  | .ok t    => if isJson f.path then Settings.readJson t else Settings.readToml t

/-- The settings of a source. -/
def load : Source → Except SettingsError Settings
  | .fixed s      => s.validated
  | .file f       => loadFile f
  | .other result => result

end Source

end Semicolon
