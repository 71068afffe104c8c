import Semicolon.FileRun
import Semicolon.Text.Quoted

/-!
# Cli — notices

What the program tells besides its result.  Notices are derived from what a run returns; a level
says which of them are shown.
-/

namespace Semicolon.Cli

/-- How important a notice is. -/
inductive Level where
  | debug
  | info
  | warn
  deriving DecidableEq, Repr

namespace Level

def name : Level → String
  | .debug => "DEBUG"
  | .info  => "INFO"
  | .warn  => "WARN"

/-- A higher rank is more important. -/
def rank : Level → Nat
  | .debug => 0
  | .info  => 1
  | .warn  => 2

end Level

inductive Notice where
  /-- A listed identifier belongs to no supported language. -/
  | unknownLanguage (id : String)
  | skipped (document : String) (reason : SkipReason)
  | decided (document : String) (verdict : Verdict)
  | inserted (document : String) (terminator : Char) (p : Position)
  /-- All events of a check were skipped. -/
  | nothingDecided (reason : SkipReason)
  /-- The result of a check. -/
  | wouldInsert (count : Nat) (path : String)
  /-- The result of a replay. -/
  | didInsert (count : Nat)
  deriving DecidableEq, Repr

namespace Notice

def level : Notice → Level
  | .unknownLanguage _ | .nothingDecided _         => .warn
  | .skipped _ _ | .decided _ _ | .inserted _ _ _  => .debug
  | .wouldInsert _ _ | .didInsert _                => .info

def message : Notice → String
  | .unknownLanguage id       => "Ignoring unsupported language id in `languages`: " ++ id
  | .skipped document reason  => "Skipped change in " ++ document ++ ": " ++ reason.name
  | .decided document verdict =>
    document ++ ":" ++ toString verdict.snapshot.line ++ " [" ++ verdict.language.id ++ "] "
      ++ verdict.classification.decision.name ++ " (" ++ verdict.classification.reason.describe
      ++ "): " ++ String.ofList (Text.quoted verdict.snapshot.stripped)
  | .inserted document terminator p =>
    "Inserted `" ++ String.singleton terminator ++ "` at " ++ document ++ ":" ++ toString p.line
      ++ ":" ++ toString p.column
  | .nothingDecided reason    =>
    "No line was classified (" ++ reason.name ++ "); check the configuration"
  | .wouldInsert count path   =>
    toString count ++ " line(s) in " ++ path ++ " would get a terminator"
  | .didInsert count          => "Inserted " ++ toString count ++ " terminator(s)"

/-- The notices of one load of settings. -/
def ofLoad (settings : Settings) : List Notice := settings.unknownLanguages.map .unknownLanguage

/-- The notices of a load that fails: the languages are looked at before the delay. -/
def ofFailedLoad : SettingsError → List Notice
  | .delayTooLong settings => ofLoad settings
  | _                      => []

/-- The notices of one event in a document. -/
def ofHandled (document : String) : Outcome × EditStatus → List Notice
  | (.skipped reason, _)        => [.skipped document reason]
  | (.decided verdict, .applied) =>
    [.decided document verdict,
     .inserted document verdict.language.terminator verdict.snapshot.endPosition]
  | (.decided verdict, _)       => [.decided document verdict]

/-- The notices of a run in a document: the settings are loaded when the first event comes. -/
def ofRun (settings : Settings) (document : String) (r : FileRun) : List Notice :=
  (List.replicate r.dispatcher.cache.loads (ofLoad settings)).flatten
    ++ r.handled.flatMap (ofHandled document)

end Notice

end Semicolon.Cli
