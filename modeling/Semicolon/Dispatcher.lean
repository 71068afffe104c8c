import Semicolon.Classification
import Semicolon.Debouncer
import Semicolon.Editor
import Semicolon.Literal
import Semicolon.Settings.Cache
import Semicolon.Snapshot

/-!
# Dispatcher — from an event to a terminator

A dispatcher decides about events and, if it inserts, edits.  An event passes a number of gates:

1. it has a change;
2. `admission`: the settings let the language of its document be decided;
3. the debouncer accepts it;
4. `snapshotOf`: its first change is a bare line break in the document with the focus, on a line
   that exists.

Then `verdictOn` decides about the line.  Only the first three gates have an effect of their own: a
load of the settings, and the time of an accepted trigger.
-/

namespace Semicolon

/-- Why an event is not decided. -/
inductive SkipReason where
  | noChanges
  | disabled
  | unknownDocument
  | languageNotListed
  | unsupportedLanguage
  | languageDisabled
  | debounced
  | notNewline
  | notFocused
  | lineOutOfRange
  deriving DecidableEq, Repr

def SkipReason.name : SkipReason → String
  | .noChanges           => "no_changes"
  | .disabled            => "disabled"
  | .unknownDocument     => "unknown_document"
  | .languageNotListed   => "language_not_listed"
  | .unsupportedLanguage => "unsupported_language"
  | .languageDisabled    => "language_disabled"
  | .debounced           => "debounced"
  | .notNewline          => "not_newline"
  | .notFocused          => "not_focused"
  | .lineOutOfRange      => "line_out_of_range"

/-- A decision about a line. -/
structure Verdict where
  language : Language
  classification : Classification
  snapshot : Snapshot
  deriving DecidableEq, Repr

/-- What came of an event. -/
inductive Outcome where
  | skipped (reason : SkipReason)
  | decided (verdict : Verdict)
  deriving DecidableEq, Repr

namespace Outcome

def decision? : Outcome → Option Decision
  | .skipped _       => none
  | .decided verdict => some verdict.classification.decision

def skipReason? : Outcome → Option SkipReason
  | .skipped reason => some reason
  | .decided _      => none

end Outcome

/-- What came of the edit that an event may ask for. -/
inductive EditStatus where
  | applied
  /-- The editor refused the edit, and it is not tried again. -/
  | rejected
  /-- Nothing was to be inserted. -/
  | notNeeded
  deriving DecidableEq, Repr

def EditStatus.name : EditStatus → String
  | .applied   => "applied"
  | .rejected  => "rejected"
  | .notNeeded => "not_needed"

/-! ### Gates -/

/-- The document of an event and its language, if the settings let it be decided. -/
def admission (settings : Settings) (editor : Editor) (document : String) :
    Except SkipReason (Document × Language) :=
  if !settings.enabled then .error .disabled
  else match editor.get? document with
  | none   => .error .unknownDocument
  | some d =>
  if !settings.languages.contains d.languageId then .error .languageNotListed
  else match Language.ofId? d.languageId with
  | none          => .error .unsupportedLanguage
  | some language =>
  if !settings.enableFor.get language then .error .languageDisabled
  else .ok (d, language)

/-- The line of a document that was left at a place. -/
def snapshotAt? (settings : Settings) (d : Document) (line : Nat) : Option Snapshot :=
  (d.line? line).map fun raw =>
    let uncommented := if settings.skipComments then Comment.stripFor d.languageId raw else raw
    .of raw uncommented line (d.offsetAt ⟨line, raw.length⟩)

/-- The line that a change leaves behind, if the change is a line break typed into the document with
the focus. -/
def snapshotOf (settings : Settings) (editor : Editor) (document : String) (d : Document)
    (change : Change) : Except SkipReason Snapshot :=
  if !change.isBareNewline then .error .notNewline
  else if editor.focused ≠ some document then .error .notFocused
  else match snapshotAt? settings d change.range.start.line with
  | none          => .error .lineOutOfRange
  | some snapshot => .ok snapshot

/-- The decision about a line that was left at a place.  Comments and strings are looked for in
front of that place. -/
def verdictOn (settings : Settings) (d : Document) (language : Language) (cursor : Position)
    (snapshot : Snapshot) : Classification :=
  if snapshot.trimmed.isEmpty then .suppress .empty
  else if snapshot.isCommentLine then .suppress .commentLine
  else if settings.skipStrings && Literal.isInside d.text (d.offsetAt cursor) then
    .suppress .insideString
  else if settings.skipComments && Comment.isInside d.text (d.offsetAt cursor) then
    .suppress .insideComment
  else language.classify snapshot.stripped

/-! ### The dispatcher -/

structure Dispatcher where
  editor : Editor
  cache : Cache
  debouncer : Debouncer

namespace Dispatcher

/-- A dispatcher that has seen no event. -/
def start (editor : Editor) (source : Source) : Dispatcher := ⟨editor, .ofSource source, .fresh⟩

/-- Decide about an event at a time, without editing. -/
def handle (d : Dispatcher) (now : Nat) (event : Event) : Outcome × Dispatcher :=
  match event.firstChange? with
  | none        => (.skipped .noChanges, d)
  | some change =>
    let (settings, cache) := d.cache.get
    let d := { d with cache := cache }
    match admission settings d.editor event.document with
    | .error reason => (.skipped reason, d)
    | .ok (document, language) =>
      match d.debouncer.accept? now settings.debounceDelay with
      | none           => (.skipped .debounced, d)
      | some debouncer =>
        let d := { d with debouncer := debouncer }
        match snapshotOf settings d.editor event.document document change with
        | .error reason => (.skipped reason, d)
        | .ok snapshot  =>
          let classification := verdictOn settings document language change.range.start snapshot
          (.decided ⟨language, classification, snapshot⟩, d)

/-- Put a terminator at the end of a line, if that was decided.  It can be undone together with the
line break. -/
def applyTerminator (editor : Editor) (document : String) (terminator : Char) (decision : Decision)
    (lineEnd : Position) : EditStatus × Editor :=
  match decision with
  | .suppress => (.notNeeded, editor)
  | .insert   =>
    match editor.insert ⟨document, lineEnd, [terminator], .withPrevious⟩ with
    | .ok editor => (.applied, editor)
    | .error _   => (.rejected, editor)

/-- Decide about an event at a time, and edit. -/
def handleAndEdit (d : Dispatcher) (now : Nat) (event : Event) :
    (Outcome × EditStatus) × Dispatcher :=
  match d.handle now event with
  | (.skipped reason, d) => ((.skipped reason, .notNeeded), d)
  | (.decided verdict, d) =>
    let (status, editor) :=
      applyTerminator d.editor event.document verdict.language.terminator
        verdict.classification.decision verdict.snapshot.endPosition
    ((.decided verdict, status), { d with editor := editor })

/-- The settings may have changed. -/
def settingsChanged (d : Dispatcher) : Dispatcher := { d with cache := d.cache.invalidate }

end Dispatcher

end Semicolon
