import Semicolon.Proofs.Dispatcher.Outcomes
import Semicolon.Proofs.Editor.Edits

/-!
# Dispatcher — the effect of an event on the editor

**Main result** (`terminator_or_nothing`).  Whatever event arrives, a terminator is inserted at the
end of the line that was decided, and nothing else changes, or nothing changes at all.

The end of the line is a place of its document that every edit may use, and its byte offset is the
one that the snapshot holds (`offsetAt_endPosition`).  So an editor that takes insertions takes this
one (`insert_terminatorEdit`).

The decision looks at the document of the event and at the focus only (`handle_congr`), so it does
not depend on whether the editor takes insertions.
-/

namespace Semicolon
open Text

/-! ### What the decision looks at -/

theorem admission_congr (settings : Settings) {e e' : Editor} {name : String}
    (h : e'.get? name = e.get? name) : admission settings e' name = admission settings e name := by
  rw [admission, admission, h]

theorem snapshotOf_congr (settings : Settings) {e e' : Editor} (h : e'.focused = e.focused)
    (name : String) (d : Document) (change : Change) :
    snapshotOf settings e' name d change = snapshotOf settings e name d change := by
  rw [snapshotOf, snapshotOf, h]

/-- The document of the event and the focus are all that a decision reads in the editor. -/
theorem Dispatcher.handle_congr (d : Dispatcher) (now : Nat) {event : Event} {e : Editor}
    (hget : e.get? event.document = d.editor.get? event.document)
    (hfocused : e.focused = d.editor.focused) :
    (({ d with editor := e } : Dispatcher).handle now event).1 = (d.handle now event).1 := by
  rw [handle, handle]
  cases event.firstChange? with
  | none => rfl
  | some change =>
    dsimp only
    rw [admission_congr _ hget]
    cases admission d.cache.get.1 d.editor event.document with
    | error reason => rfl
    | ok admitted =>
      dsimp only
      cases d.debouncer.accept? now d.cache.get.1.debounceDelay with
      | none => rfl
      | some debouncer =>
        dsimp only
        rw [snapshotOf_congr _ hfocused]
        cases snapshotOf d.cache.get.1 d.editor event.document admitted.1 change <;> rfl

/-! ### The place of a terminator -/

/-- The end of a line that was decided is a place for an edit, at the byte offset of the
snapshot. -/
theorem offsetAt_endPosition {settings : Settings} {d : Document} {line : Nat} {snapshot : Snapshot}
    (h : snapshotAt? settings d line = some snapshot) :
    d.check? snapshot.endPosition = none ∧
      d.offsetAt snapshot.endPosition = snapshot.endOffset := by
  obtain ⟨raw, hraw, rfl⟩ := Option.map_eq_some_iff.mp h
  exact ⟨Document.check?_eq_none_iff.mpr ⟨raw, hraw, Nat.le_refl _⟩, rfl⟩

/-- The second editor is the first with the terminator of a verdict, and nothing else. -/
structure Editor.Terminated (e e' : Editor) (name : String) (v : Verdict) : Prop where
  text : ∃ d front behind, e.get? name = some d ∧ d.text = front ++ behind ∧
    byteSize front = v.snapshot.endOffset ∧
    e'.get? name = some { d with text := front ++ (';' :: behind) }
  others : ∀ other, other ≠ name → e'.get? other = e.get? other
  focused_eq : e'.focused = e.focused
  isReadOnly_eq : e'.isReadOnly = e.isReadOnly
  /-- The edit belongs to the newest step. -/
  joins : ∀ step steps, e.history = step :: steps →
    e'.history = (Dispatcher.terminatorEdit name v :: step) :: steps
  /-- Without a step it is one of its own. -/
  begins : e.history = [] → e'.history = [[Dispatcher.terminatorEdit name v]]

namespace Dispatcher

/-- An editor that takes insertions takes the terminator of a verdict. -/
theorem insert_terminatorEdit {settings : Settings} {e : Editor} {name : String} {change : Change}
    {v : Verdict} (hv : judge settings e name change = .decided v)
    (hwritable : e.isReadOnly = false) :
    ∃ e', e.insert (terminatorEdit name v) = .ok e' ∧ e.Terminated e' name v := by
  obtain ⟨d, hd, -, -, -, -, hsnapshot, -⟩ := judge_eq_decided hv
  obtain ⟨hcheck, hoffset⟩ := offsetAt_endPosition hsnapshot
  have hoffers : e.Offers (terminatorEdit name v).document (terminatorEdit name v).position :=
    ⟨d, hd, Document.check?_eq_none_iff_le.mp hcheck⟩
  obtain ⟨e', he', hedited⟩ := Editor.apply_of_offers hoffers
  refine ⟨e', (Editor.insert_of_writable hwritable _).trans he', ?_⟩
  obtain ⟨d', front, behind, hd', hcut, htext⟩ := hedited.text
  obtain rfl : d = d' := Option.some.inj (hd.symm.trans hd')
  constructor
  case text =>
    exact ⟨d, front, behind, hd, hcut.text_eq, hcut.offset_eq.symm.trans hoffset, htext⟩
  case others => exact hedited.others
  case focused_eq => exact hedited.focused_eq
  case isReadOnly_eq => exact hedited.isReadOnly_eq
  case joins => exact hedited.joins rfl
  case begins =>
    intro hhistory
    rw [hedited.begins (.inr hhistory), hhistory]

/-- A terminator that was inserted had been decided, and is all that changed. -/
theorem terminated_of_applied {d : Dispatcher} {now : Nat} {event : Event} {v : Verdict}
    (hv : (d.handle now event).1 = .decided v)
    (happlied : (d.handleAndEdit now event).1.2 = .applied) :
    v.classification.decision = .insert ∧
      d.editor.Terminated (d.handleAndEdit now event).2.editor event.document v := by
  rcases handleAndEdit_cases d now event with ⟨hne, -⟩ | ⟨v', hv', hdecision, -, hinsert⟩
  · exact absurd happlied hne
  obtain rfl : v' = v := Outcome.decided.inj (hv'.symm.trans hv)
  obtain ⟨change, hchange⟩ := exists_change_of_decided hv
  obtain ⟨e, he, hterminated⟩ :=
    insert_terminatorEdit (handle_eq_decided hchange hv) (Editor.apply_of_insert hinsert).1
  rw [hinsert] at he
  rw [Except.ok.inj he]
  exact ⟨hdecision, hterminated⟩

/-- A verdict that is not to insert, and an event that is skipped, leave the editor as it is. -/
theorem handleAndEdit_of_ne_insert {d : Dispatcher} {now : Nat} {event : Event}
    (h : (d.handle now event).1.decision? ≠ some .insert) :
    d.handleAndEdit now event =
      (((d.handle now event).1, .notNeeded), (d.handle now event).2) := by
  apply handleAndEdit_of_suppress
  intro v hv
  rw [hv] at h
  cases hdecision : v.classification.decision with
  | suppress => rfl
  | insert => exact absurd (congrArg some hdecision) h

/-- A terminator is inserted where it was decided, and nothing else changes, or nothing changes at
all. -/
theorem terminator_or_nothing (d : Dispatcher) (now : Nat) (event : Event) :
    (d.handleAndEdit now event).1.1 = (d.handle now event).1 ∧
    (∀ on, (({ d with editor := { d.editor with isReadOnly := on } } : Dispatcher).handleAndEdit
      now event).1.1 = (d.handle now event).1) ∧
    ((d.handle now event).1.decision? ≠ some .insert →
      (d.handleAndEdit now event).1.2 = .notNeeded ∧
      (d.handleAndEdit now event).2.editor = d.editor) ∧
    ∀ v, (d.handle now event).1 = .decided v → v.classification.decision = .insert →
      (d.editor.isReadOnly = false → (d.handleAndEdit now event).1.2 = .applied ∧
        d.editor.Terminated (d.handleAndEdit now event).2.editor event.document v) ∧
      (d.editor.isReadOnly = true → (d.handleAndEdit now event).1.2 = .rejected ∧
        (d.handleAndEdit now event).2.editor = d.editor) := by
  refine ⟨handleAndEdit_outcome d now event, fun on => ?_, fun hdecision => ?_,
    fun v hv hdecision => ⟨fun hwritable => ?_, fun hreadOnly => ?_⟩⟩
  · rw [handleAndEdit_outcome]
    exact handle_congr d now rfl rfl
  · rw [handleAndEdit_of_ne_insert hdecision]
    exact ⟨rfl, handle_editor d now event⟩
  · obtain ⟨change, hchange⟩ := exists_change_of_decided hv
    obtain ⟨e, he, hterminated⟩ :=
      insert_terminatorEdit (handle_eq_decided hchange hv) hwritable
    rw [handleAndEdit_of_insert hv hdecision he]
    exact ⟨rfl, hterminated⟩
  · have hrefused : d.editor.insert (terminatorEdit event.document v) =
        .error (.rejected (.readOnly event.document)) := by
      rw [Editor.insert, if_pos hreadOnly]
      rfl
    rw [handleAndEdit_of_refused hv hdecision hrefused]
    exact ⟨rfl, rfl⟩

/-- A dispatcher over one line that lacks its terminator. -/
def ofDeclaration (isReadOnly : Bool) : Dispatcher :=
  let editor := Editor.empty.openDocument "Main" ⟨"java", "int x = 1\n".toList⟩
  start { editor with isReadOnly := isReadOnly } (.fixed .default)

/-- The line gets its terminator, unless the editor takes no insertions; an event without a change
does nothing. -/
theorem terminator_or_nothing_of_declaration :
    (∃ v, (ofDeclaration false).editor.Terminated
        ((ofDeclaration false).handleAndEdit 0 (.typed "Main" ⟨0, 9⟩ ['\n'])).2.editor "Main" v) ∧
      ((ofDeclaration true).handleAndEdit 0 (.typed "Main" ⟨0, 9⟩ ['\n'])).1.2 = .rejected ∧
      ((ofDeclaration false).handleAndEdit 0 ⟨"Main", []⟩).2.editor =
        (ofDeclaration false).editor := by
  obtain ⟨-, -, -, htaken⟩ :=
    terminator_or_nothing (ofDeclaration false) 0 (.typed "Main" ⟨0, 9⟩ ['\n'])
  obtain ⟨-, -, -, hrefused⟩ :=
    terminator_or_nothing (ofDeclaration true) 0 (.typed "Main" ⟨0, 9⟩ ['\n'])
  obtain ⟨-, -, hnothing, -⟩ := terminator_or_nothing (ofDeclaration false) 0 ⟨"Main", []⟩
  have hdecided : ∀ on, ((ofDeclaration on).handle 0 (.typed "Main" ⟨0, 9⟩ ['\n'])).1.decision? =
      some .insert := by decide
  obtain ⟨v, hv, hdecision⟩ := Outcome.decision?_eq_some (hdecided false)
  obtain ⟨v', hv', hdecision'⟩ := Outcome.decision?_eq_some (hdecided true)
  exact ⟨⟨v, ((htaken v hv hdecision).1 rfl).2⟩, ((hrefused v' hv' hdecision').2 rfl).1,
    (hnothing (by decide)).2⟩

end Dispatcher

end Semicolon
