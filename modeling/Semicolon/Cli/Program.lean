import Semicolon.Cli.Arguments
import Semicolon.Cli.Notice
import Semicolon.Cli.Report
import Semicolon.LanguageChoice

/-!
# Cli — the program

`Program.run` carries out a command line in a folder of files and returns everything that the
program writes.  Settings are read first, then the language is chosen, then the file is read; the
first of them that fails ends the run.
-/

namespace Semicolon.Cli

/-! ### Files -/

/-- The files that the program can see. -/
abbrev Folder := List File

/-- The name that a path has inside of the folder; a point stands for the folder itself. -/
def plainName (path : String) : Text :=
  match FilePath.components path.toList with
  | ['.'] :: name :: rest => ['/'].intercalate (name :: rest)
  | _                     => path.toList

/-- The file at a path. -/
def Folder.file (folder : Folder) (path : String) : File :=
  ⟨path, (folder.find? fun f => f.path.toList = plainName path).bind (·.bytes?)⟩

/-! ### Failures -/

/-- Why a command fails. -/
inductive Failure where
  | settings (path : String) (error : SettingsError)
  | choice (error : ChoiceError)
  | source (path : String) (error : FileError)
  | edit (error : EditError)
  deriving DecidableEq, Repr

namespace Failure

def message : Failure → String
  | .settings path _ => "Failed to load config " ++ path
  | .choice error    => error.message
  | .source path _   => "Failed to read " ++ path
  | .edit error      => error.message

/-- What lies behind the failure, from the outside in. -/
def causes : Failure → List String
  | .settings _ error => error.message :: error.cause?.toList
  | .source _ error   => [error.message]
  | .choice _         => []
  | .edit _           => []

/-- The causes as lines; they are numbered if there are several. -/
def causeLines : List String → List String
  | []      => []
  | [cause] => ["", "Caused by:", "    " ++ cause]
  | causes  =>
    "" :: "Caused by:" :: causes.zipIdx.map fun (cause, i) => "    " ++ toString i ++ ": " ++ cause

/-- The failure as lines. -/
def lines (f : Failure) : List String := ("Error: " ++ f.message) :: causeLines f.causes

end Failure

/-! ### Runs -/

/-- What a run writes. -/
structure Output where
  exitCode : Nat
  stdout : String
  /-- Lines about a failure. -/
  stderr : List String
  /-- The notices that are shown. -/
  log : List (Level × String)
  deriving DecidableEq, Repr

/-- The result of a command: its notices, and its text or its failure. -/
structure Result where
  notices : List Notice
  text : Except Failure String

namespace Program

def version : String := "autosemi 0.1.1\n"

/-- The settings at a path, and the notices of loading them; all languages are on without a path. -/
def settings (folder : Folder) : Option String → List Notice × Except Failure Settings
  | none      => ([], .ok .allLanguages)
  | some path =>
    match Source.loadFile (folder.file path) with
    | .ok s        => (Notice.ofLoad s, .ok s)
    | .error error => (Notice.ofFailedLoad error, .error (.settings path error))

/-- The language and the text of a file. -/
def source (folder : Folder) (path : String) (languageId? : Option String) :
    Except Failure (Language × Text) := do
  let language ← (Language.choose languageId? (some path)).mapError .choice
  let text ← ((folder.file path).read).mapError (.source path)
  return (language, text)

/-- Carry out a command with settings. -/
def perform (folder : Folder) (s : Settings) : Command → Result
  | .explain languageId line asJson =>
    match Language.choose (some languageId) none with
    | .error error => ⟨[], .error (.choice error)⟩
    | .ok language =>
      let e := explain s language line.toList
      ⟨[], .ok (if asJson then report e.toJson else decisionLine e.classification)⟩
  | .check path languageId? asJson =>
    match source folder path languageId? with
    | .error failure       => ⟨[], .error failure⟩
    | .ok (language, text) =>
      match FileRun.check s language text with
      | .error error => ⟨[], .error (.edit error)⟩
      | .ok r        =>
        let inserts := r.verdicts.filter (·.classification.decision = .insert)
        ⟨Notice.ofRun s FileRun.checked r
            ++ r.idleReason?.toList.map .nothingDecided
            ++ [.wouldInsert inserts.length path],
          .ok (if asJson then report (.array (inserts.map Verdict.toJson))
            else String.join (inserts.map (verdictLine path)))⟩
  | .replay path languageId? =>
    match source folder path languageId? with
    | .error failure       => ⟨[], .error failure⟩
    | .ok (language, text) =>
      match FileRun.replay s language text with
      | .error error => ⟨[], .error (.edit error)⟩
      | .ok r        =>
        ⟨Notice.ofRun s FileRun.replayed r ++ [.didInsert r.inserted],
          .ok (String.ofList (r.text FileRun.replayed))⟩

/-- The command writes JSON. -/
def isJson : Command → Bool
  | .explain _ _ asJson | .check _ _ asJson => asJson
  | .replay _ _                             => false

/-- The least important level that is shown. -/
def level (a : Arguments) : Level :=
  if a.quiet || isJson a.command then .warn else if a.verbose then .debug else .info

/-- Carry out a command line that was read. -/
def execute (folder : Folder) (a : Arguments) : Output :=
  let (loading, settings) := settings folder a.config?
  let result : Result := match settings with
    | .ok s          => perform folder s a.command
    | .error failure => ⟨[], .error failure⟩
  let log := ((loading ++ result.notices).filter fun n => (level a).rank ≤ n.level.rank).map
    fun n => (n.level, n.message)
  match result.text with
  | .ok text       => ⟨0, text, [], log⟩
  | .error failure => ⟨1, "", failure.lines, log⟩

/-- How the program is called. -/
def usage : String :=
  "Usage: autosemi [-v] [--quiet] [--config FILE] explain|check|replay ...\n"

/-- Carry out a command line. -/
def run (folder : Folder) (words : List String) : Output :=
  match Arguments.read words with
  | .ok a           => execute folder a
  | .error .version => ⟨0, version, [], []⟩
  | .error .help    => ⟨0, usage, [], []⟩
  | .error .misuse  => ⟨2, "", [usage], []⟩

end Program

end Semicolon.Cli
