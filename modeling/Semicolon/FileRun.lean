import Semicolon.Dispatcher

/-!
# FileRun — the dispatcher over the lines of a file

* `check` presses enter behind every line of the finished text in turn, and undoes it before the
  next.
* `replay` types the text into an empty document line by line and presses enter behind each, so that
  the terminators are inserted as they would be live.
* `explain` decides a single line without a document.

The delay between events does not count in a run, for all of it happens at one instant.
-/

namespace Semicolon

/-- What came of the events of a run. -/
structure FileRun where
  /-- What came of each line break, with the edit it asked for. -/
  handled : List (Outcome × EditStatus)
  dispatcher : Dispatcher

namespace FileRun

/-- A dispatcher with one document open, which takes every event. -/
def start (settings : Settings) (name : String) (language : Language) (text : Text) : Dispatcher :=
  .start (Editor.empty.openDocument name ⟨language.id, text⟩) (.fixed settings.withoutDelay)

/-- The decisions of the run. -/
def verdicts (r : FileRun) : List Verdict :=
  r.handled.filterMap fun
    | (.decided verdict, _) => some verdict
    | _                     => none

/-- Why the last event that was not decided was skipped. -/
def lastSkip? (r : FileRun) : Option SkipReason :=
  (r.handled.filterMap fun (outcome, _) => outcome.skipReason?).getLast?

/-- Why nothing was decided, although there were events. -/
def idleReason? (r : FileRun) : Option SkipReason :=
  if r.verdicts.isEmpty then r.lastSkip? else none

/-- The number of terminators that were inserted. -/
def inserted (r : FileRun) : Nat := (r.handled.filter fun (_, status) => status = .applied).length

/-- The text of a document at the end of the run. -/
def text (r : FileRun) (name : String) : Text :=
  ((r.dispatcher.editor.get? name).map (·.text)).getD []

/-! ### Check -/

/-- The name of the document that is checked. -/
def checked : String := "check"

/-- Press enter behind a line, decide, and undo it. -/
def checkLine (d : Dispatcher) (line : Nat) : Except EditError (Outcome × Dispatcher) := do
  let column := ((d.editor.get? checked).map (·.lineLength line)).getD 0
  let (event, editor) ← d.editor.type checked ⟨line, column⟩ ['\n']
  let (outcome, d) := { d with editor := editor }.handle 0 event
  return (outcome, { d with editor := d.editor.undo?.getD d.editor })

/-- Check lines one after the other. -/
def checkLines (d : Dispatcher) : List Nat → Except EditError FileRun
  | []            => .ok ⟨[], d⟩
  | line :: lines => do
    let (outcome, d) ← checkLine d line
    let run ← checkLines d lines
    return { run with handled := (outcome, .notNeeded) :: run.handled }

/-- Check all lines of a text. -/
def check (settings : Settings) (language : Language) (text : Text) : Except EditError FileRun :=
  checkLines (start settings checked language text) (List.range text.fileLines.length)

/-! ### Replay -/

/-- The name of the document that is typed. -/
def replayed : String := "replay"

/-- Type a line that is not empty. -/
def typeLine (d : Dispatcher) (line : Nat) (content : Text) : Except EditError Dispatcher :=
  if content.isEmpty then .ok d
  else do
    let (_, editor) ← d.editor.type replayed ⟨line, 0⟩ content
    return { d with editor := editor }

/-- Type a line and press enter behind it. -/
def replayLine (d : Dispatcher) (line : Nat) (content : Text) :
    Except EditError ((Outcome × EditStatus) × Dispatcher) := do
  let d ← typeLine d line content
  let (event, editor) ← d.editor.type replayed ⟨line, content.length⟩ ['\n']
  return { d with editor := editor }.handleAndEdit 0 event

/-- Type lines one after the other, the first as the line with a number. -/
def replayLines (d : Dispatcher) (line : Nat) : List Text → Except EditError FileRun
  | []                  => .ok ⟨[], d⟩
  | content :: contents => do
    let (handled, d) ← replayLine d line content
    let run ← replayLines d (line + 1) contents
    return { run with handled := handled :: run.handled }

/-- Type all lines of a text. -/
def replay (settings : Settings) (language : Language) (text : Text) : Except EditError FileRun :=
  replayLines (start settings replayed language []) 0 text.fileLines

end FileRun

/-! ### Explain -/

/-- The decision about a single line. -/
structure Explanation where
  language : Language
  /-- The line without blanks at its ends. -/
  line : Text
  /-- The line without comments and without blanks at its ends. -/
  stripped : Text
  classification : Classification
  deriving DecidableEq, Repr

/-- Decide a single line. -/
def explain (settings : Settings) (language : Language) (line : Text) : Explanation :=
  let uncommented := if settings.skipComments then Comment.stripFor language.id line else line
  { language       := language
    line           := line.trim
    stripped       := uncommented.trim
    classification := language.classify uncommented }

end Semicolon
