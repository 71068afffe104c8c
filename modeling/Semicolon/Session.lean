import Semicolon.Dispatcher

/-!
# Session — a dispatcher at work

A session is a dispatcher with a clock, which stands still unless it is moved.  An `Action` is what
a user or the editor does; `Session.perform` carries it out and says what came of it.  An action
that is refused changes nothing.
-/

namespace Semicolon

/-- What is done with an event. -/
inductive Delivery where
  /-- It is only reported. -/
  | keep
  /-- It is decided. -/
  | decide
  /-- It is decided, and a terminator is inserted if need be. -/
  | edit
  deriving DecidableEq, Repr

inductive Action where
  | openDocument (name : String) (document : Document)
  | focus (name : String)
  /-- A text is typed at a place. -/
  | type (name : String) (p : Position) (text : Text) (delivery : Delivery)
  /-- A line break is typed at the end of a line. -/
  | enter (name : String) (line : Nat) (delivery : Delivery)
  /-- An event arrives to which nothing was typed. -/
  | deliver (event : Event) (delivery : Delivery)
  | insert (edit : Edit)
  /-- A decision about a line is carried out. -/
  | terminate (name : String) (terminator : Char) (decision : Decision) (lineEnd : Position)
  | undo
  /-- Time goes by, in milliseconds. -/
  | advance (duration : Nat)
  | setSource (source : Source)
  | settingsChanged
  | setReadOnly (on : Bool)

/-- What came of an action. -/
inductive Answer where
  | done
  | opened (name : String)
  | reported (event : Event)
  | decided (outcome : Outcome)
  | edited (outcome : Outcome) (status : EditStatus)
  | terminated (status : EditStatus)
  | undone (wasStep : Bool)
  | refused (error : EditError)
  deriving DecidableEq, Repr

structure Session where
  dispatcher : Dispatcher
  /-- The time, in milliseconds. -/
  now : Nat

namespace Session

/-- Nothing is open and nothing is loaded. -/
def start (source : Source) : Session := ⟨.start .empty source, 0⟩

def editor (s : Session) : Editor := s.dispatcher.editor

def withEditor (s : Session) (e : Editor) : Session :=
  { s with dispatcher := { s.dispatcher with editor := e } }

/-- Hand an event to the dispatcher. -/
def deliver (s : Session) (event : Event) : Delivery → Answer × Session
  | .keep   => (.reported event, s)
  | .decide =>
    let (outcome, d) := s.dispatcher.handle s.now event
    (.decided outcome, { s with dispatcher := d })
  | .edit   =>
    let ((outcome, status), d) := s.dispatcher.handleAndEdit s.now event
    (.edited outcome status, { s with dispatcher := d })

/-- Type a text, and hand over the event. -/
def type (s : Session) (name : String) (p : Position) (text : Text) (delivery : Delivery) :
    Answer × Session :=
  match s.editor.type name p text with
  | .error e        => (.refused e, s)
  | .ok (event, e') => (s.withEditor e').deliver event delivery

/-- The end of a line; the end of a line that does not exist is its start. -/
def lineEnd (s : Session) (name : String) (line : Nat) : Position :=
  ⟨line, ((s.editor.get? name).map (·.lineLength line)).getD 0⟩

def perform (s : Session) : Action → Answer × Session
  | .openDocument name d          => (.opened name, s.withEditor (s.editor.openDocument name d))
  | .focus name                   => (.done, s.withEditor (s.editor.focus name))
  | .type name p text delivery    => s.type name p text delivery
  | .enter name line delivery     => s.type name (s.lineEnd name line) ['\n'] delivery
  | .deliver event delivery       => s.deliver event delivery
  | .insert edit                  =>
    match s.editor.insert edit with
    | .error e => (.refused e, s)
    | .ok e    => (.done, s.withEditor e)
  | .terminate name terminator decision lineEnd =>
    let (status, e) := Dispatcher.applyTerminator s.editor name terminator decision lineEnd
    (.terminated status, s.withEditor e)
  | .undo                         =>
    match s.editor.undo? with
    | none   => (.undone false, s)
    | some e => (.undone true, s.withEditor e)
  | .advance duration             => (.done, { s with now := s.now + duration })
  | .setSource source             =>
    (.done, { s with dispatcher :=
      { s.dispatcher with cache := s.dispatcher.cache.setSource source } })
  | .settingsChanged              => (.done, { s with dispatcher := s.dispatcher.settingsChanged })
  | .setReadOnly on               => (.done, s.withEditor { s.editor with isReadOnly := on })

end Session

end Semicolon
