import Semicolon.Proofs.Dispatcher.Breaks
import Semicolon.Proofs.Editor.Keystroke
import Semicolon.Proofs.Session.Runs

/-!
# Session — one undo takes back a line break and its terminator

**Main result** (`undo_takes_back_line_break`).  A line break typed at a place that does not follow
a carriage return, with the terminator that it may bring, is one step, and one undo gives back the
editor as it was.

The line break ends a text that does not end in a carriage return, so the place of the line break
and the place of the terminator cut the edited text where they cut it before
(`Document.Splits.remove_break`, `Document.remove_terminator`).  A terminator that is refused or not
asked for leaves the line break alone in its step.
-/

namespace Semicolon

/-! ### The dispatcher -/

namespace Dispatcher
open Text

/-- Whatever becomes of a line break, one undo takes it back. -/
theorem undo?_handleAndEdit_break {D : Dispatcher} {e : Editor} {name : String} {d : Document}
    {p : Position} {before : List Text} {left right nl : Text} (hd : e.get? name = some d)
    (h : d.Splits p before left right) (hleft : left.getLast? ≠ some '\r')
    (hnl : Document.IsLineBreak nl)
    (hD : D.editor = e.typed name ⟨d.languageId, terminated before ++ left ++ (nl ++ right)⟩ p nl)
    (now : Nat) :
    (D.handleAndEdit now (.typed name p nl)).2.editor.undo? = some e ∧
      (D.handleAndEdit now (.typed name p nl)).2.editor.history.length = e.history.length + 1 := by
  have hback := h.remove_break hleft hnl
  rcases handleAndEdit_cases D now (.typed name p nl) with ⟨-, hkept⟩ | ⟨v, hv, -, -, hinsert⟩
  · rw [hkept, hD]
    exact ⟨Editor.undo?_typed hd hback, rfl⟩
  -- the terminator goes right behind the text that the line break ended
  obtain ⟨returns, rfl, hr, hshort⟩ := hnl.exists_returns
  have hstem : StemAt (terminated before ++ left ++ (returns ++ ['\n'] ++ right)) before left
      returns ('\n' :: right) := ⟨h.pieceAt_break hr, hleft, hr⟩
  have hplace : v.snapshot.endPosition = ⟨before.length, left.length⟩ := by
    have hstart : p = ⟨before.length, p.column⟩ := by rw [← h.line_eq]
    have hget : D.editor.get? name =
        some ⟨d.languageId, terminated before ++ left ++ (returns ++ ['\n'] ++ right)⟩ := by
      rw [hD]
      exact Editor.get?_typed
    have hjudge := handle_eq_decided rfl hv
    rw [judge_eq_decided_of_stemAt hget hstem hstart hjudge, breakVerdict, hshort, List.append_nil]
    rfl
  rw [hD] at hinsert
  refine Editor.undo?_insert_typed hd hback rfl rfl hinsert fun d' hd' => ?_
  rw [terminatorEdit, hplace] at hd' ⊢
  exact Document.remove_terminator hstem hd'

end Dispatcher

/-! ### The session -/

namespace Session

/-- A line break typed at a place that does not follow a carriage return is one step, whatever comes
of it, and one undo gives back the editor as it was. -/
theorem undo_takes_back_line_break (s : Session) {name : String} {d : Document} {p : Position}
    {nl : Text} (hd : s.editor.get? name = some d) (hp : d.check? p = none)
    (hclear : d.NotBehindReturn p ∨ p.column = d.lineLength p.line ∨ Text.ReturnsPaired d.text)
    (hnl : Document.IsLineBreak nl) :
    ∃ outcome status entered,
      s.perform (.type name p nl .edit) = (.edited outcome status, entered) ∧
      entered.editor.history.length = s.editor.history.length + 1 ∧
      entered.perform .undo = (.undone true, entered.withEditor s.editor) := by
  have hbehind : d.NotBehindReturn p := by
    rcases hclear with hclear | hend | hpaired
    · exact hclear
    · exact Document.notBehindReturn_of_lineEnd hp hend
    · exact Document.notBehindReturn_of_paired hp hpaired
  obtain ⟨before, left, right, h⟩ := Document.exists_splits hp
  have hleft := h.notBehindReturn_iff.mp hbehind
  have htype := Editor.type_eq hd (h.cuts.insert_eq hp nl)
  obtain ⟨hundo, hlength⟩ := Dispatcher.undo?_handleAndEdit_break
    (D := { s.dispatcher with editor := _ }) hd h hleft hnl rfl s.now
  exact ⟨_, _, _, perform_type htype .edit, hlength, perform_undo hundo⟩

/-- A line break that brings its terminator is taken back. -/
theorem undo_takes_back_line_break_of_declaration :
    ∃ outcome entered,
      (ofDocument "Main" ⟨"java", "int x = 1".toList⟩).perform (.type "Main" ⟨0, 9⟩ ['\n'] .edit) =
        (.edited outcome .applied, entered) ∧
      entered.editor.history.length = 1 ∧
      entered.perform .undo = (.undone true,
        entered.withEditor (ofDocument "Main" ⟨"java", "int x = 1".toList⟩).editor) := by
  have hd : (ofDocument "Main" ⟨"java", "int x = 1".toList⟩).editor.get? "Main" =
      some ⟨"java", "int x = 1".toList⟩ := rfl
  have hp : (⟨"java", "int x = 1".toList⟩ : Document).check? ⟨0, 9⟩ = none := by decide
  have hend : (⟨0, 9⟩ : Position).column =
      (⟨"java", "int x = 1".toList⟩ : Document).lineLength 0 := by decide
  have hnl : Document.IsLineBreak ['\n'] := .inl rfl
  obtain ⟨outcome, status, entered, hperform, hlength, hundo⟩ :=
    undo_takes_back_line_break _ hd hp (.inr (.inl hend)) hnl
  have happlied : ((ofDocument "Main" ⟨"java", "int x = 1".toList⟩).perform
      (.type "Main" ⟨0, 9⟩ ['\n'] .edit)).1.isApplied = true := by decide
  rw [hperform, Answer.isApplied_edited] at happlied
  subst happlied
  exact ⟨outcome, entered, hperform, hlength, hundo⟩

end Session

end Semicolon
