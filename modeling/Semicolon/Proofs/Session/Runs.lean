import Semicolon.Session

/-!
# Session — actions and runs

* `answers` and `run`: what comes of actions that are carried out one after the other.
* `perform_type`, `perform_undo`, `perform_deliver`: the actions that go through the dispatcher or
  the editor, by what these make of them.
* `perform_of_isAround`: what goes on around the documents changes none of them.
-/

namespace Semicolon

/-- What came of the event that was decided. -/
def Answer.outcome? : Answer → Option Outcome
  | .decided outcome  => some outcome
  | .edited outcome _ => some outcome
  | _                 => none

/-- A terminator was inserted. -/
def Answer.isApplied : Answer → Bool
  | .edited _ .applied => true
  | _                  => false

/-- No terminator was decided. -/
def Answer.isQuiet : Answer → Bool
  | .edited outcome _ => outcome.decision? ≠ some .insert
  | .decided outcome  => outcome.decision? ≠ some .insert
  | _                 => true

theorem Answer.isApplied_edited {outcome : Outcome} {status : EditStatus} :
    (Answer.edited outcome status).isApplied = true ↔ status = .applied := by
  cases status <;> simp [Answer.isApplied]

/-- An edit is quiet exactly if its verdict, if any, is to suppress. -/
theorem Answer.isQuiet_edited {outcome : Outcome} {status : EditStatus} :
    (Answer.edited outcome status).isQuiet = true ↔
      ∀ v, outcome = .decided v → v.classification.decision = .suppress := by
  cases outcome with
  | skipped reason => simp [Answer.isQuiet, Outcome.decision?]
  | decided v =>
    cases hd : v.classification.decision <;> simp [Answer.isQuiet, Outcome.decision?, hd]

/-- Time, focus and settings: what goes on around the documents. -/
inductive Action.IsAround : Action → Prop where
  | advance (duration : Nat) : IsAround (.advance duration)
  | focus (name : String) : IsAround (.focus name)
  | setSource (source : Source) : IsAround (.setSource source)
  | settingsChanged : IsAround .settingsChanged

namespace Session

/-- One document is open, and the settings are the defaults. -/
def ofDocument (name : String) (d : Document) : Session :=
  ⟨.start (Editor.empty.openDocument name d) (.fixed .default), 0⟩

/-- What comes of actions that are carried out one after the other. -/
def answers (s : Session) : List Action → List Answer
  | []      => []
  | a :: as => (s.perform a).1 :: (s.perform a).2.answers as

/-- The session after actions that are carried out one after the other. -/
def run (s : Session) : List Action → Session
  | []      => s
  | a :: as => (s.perform a).2.run as

theorem run_append (s : Session) (as bs : List Action) : s.run (as ++ bs) = (s.run as).run bs := by
  induction as generalizing s with
  | nil => rfl
  | cons a as ih => exact ih (s.perform a).2

/-- A text that is typed is handed on as an event. -/
theorem perform_type {s : Session} {name : String} {p : Position} {text : Text} {event : Event}
    {e : Editor} (h : s.editor.type name p text = .ok (event, e)) (delivery : Delivery) :
    s.perform (.type name p text delivery) = (s.withEditor e).deliver event delivery := by
  rw [perform, type, h]

theorem perform_undo {s : Session} {e : Editor} (h : s.editor.undo? = some e) :
    s.perform .undo = (.undone true, s.withEditor e) := by
  rw [perform, h]

theorem perform_undo_nil {s : Session} (h : s.editor.history = []) :
    s.perform .undo = (.undone false, s) := by
  rw [perform, Editor.undo?, h]

theorem perform_deliver (s : Session) (event : Event) :
    s.perform (.deliver event .edit) =
      (.edited (s.dispatcher.handleAndEdit s.now event).1.1
          (s.dispatcher.handleAndEdit s.now event).1.2,
        { s with dispatcher := (s.dispatcher.handleAndEdit s.now event).2 }) := rfl

/-- What goes on around the documents changes none of them. -/
theorem perform_of_isAround {a : Action} (ha : a.IsAround) (s : Session) :
    (s.perform a).1 = .done ∧
      ∀ name, (s.perform a).2.editor.get? name = s.editor.get? name := by
  cases ha with
  | advance duration => exact ⟨rfl, fun name => rfl⟩
  | focus name =>
    refine ⟨rfl, fun name' => ?_⟩
    have hfocus : (s.editor.focus name).documents = s.editor.documents := by
      rw [Editor.focus]
      split <;> rfl
    exact congrArg (Documents.get? · name') hfocus
  | setSource source => exact ⟨rfl, fun name => rfl⟩
  | settingsChanged => exact ⟨rfl, fun name => rfl⟩

end Session

end Semicolon
