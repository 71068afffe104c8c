import Semicolon.Proofs.Document.Places
import Semicolon.Proofs.Editor.Keystroke

/-!
# Editor — what becomes of an edit

An edit may use the places of open documents, up to the end of each line (`Editor.Offers`).

* `Editor.Edited`: what an edit changes, and what it leaves as it is.
* `Editor.Refuses`: why an edit is refused.
* `Editor.apply_of_offers` and `Editor.apply_of_not_offers`: an edit at an offered place is carried
  out, and any other is refused.
-/

namespace Semicolon

/-- An edit that is no part of another step is a step of its own. -/
theorem History.record_alone {edit : Edit} {history : History}
    (h : edit.joining = .separate ∨ history = []) : history.record edit = [edit] :: history := by
  rcases h with hseparate | rfl
  · exact record_separate hseparate history
  · rfl

namespace Editor

/-- The place stands on a line of an open document, at or in front of the end of the line. -/
def Offers (e : Editor) (name : String) (p : Position) : Prop :=
  ∃ d, e.get? name = some d ∧ p.line < d.lineCount ∧ p.column ≤ d.lineLength p.line

/-- The second editor is the first with the edit, and nothing else. -/
structure Edited (e e' : Editor) (edit : Edit) : Prop where
  text : ∃ d front behind, e.get? edit.document = some d ∧ d.Cuts edit.position front behind ∧
    e'.get? edit.document = some { d with text := front ++ (edit.text ++ behind) }
  others : ∀ other, other ≠ edit.document → e'.get? other = e.get? other
  focused_eq : e'.focused = e.focused
  isReadOnly_eq : e'.isReadOnly = e.isReadOnly
  /-- The edit belongs to the newest step, if it is to. -/
  joins : edit.joining = .withPrevious → ∀ step steps, e.history = step :: steps →
    e'.history = (edit :: step) :: steps
  /-- Otherwise, or without such a step, it is one of its own. -/
  begins : edit.joining = .separate ∨ e.history = [] → e'.history = [edit] :: e.history

/-- Why an editor refuses an edit. -/
inductive Refuses (e : Editor) (edit : Edit) : EditError → Prop where
  | unknown (h : e.get? edit.document = none) : Refuses e edit (.unknownDocument edit.document)
  | rejected {d : Document} {rejection : Rejection} (hd : e.get? edit.document = some d)
      (h : d.check? edit.position = some rejection) : Refuses e edit (.rejected rejection)

variable {e e' : Editor} {edit : Edit}

/-- An edit at an offered place is carried out. -/
theorem apply_of_offers (h : e.Offers edit.document edit.position) :
    ∃ e', e.apply edit = .ok e' ∧ e.Edited e' edit := by
  obtain ⟨d, hd, hplace⟩ := h
  have hp := Document.check?_eq_none_iff_le.mpr hplace
  obtain ⟨before, left, right, hsplits⟩ := Document.exists_splits hp
  have hinsert := hsplits.cuts.insert_eq hp edit.text
  refine ⟨_, apply_eq hd hinsert, ?_⟩
  constructor
  case text => exact ⟨d, _, _, hd, hsplits.cuts, Documents.get?_put_self _ _ _⟩
  case others => exact fun other hother => Documents.get?_put_of_ne _ _ hother
  case focused_eq => rfl
  case isReadOnly_eq => rfl
  case joins =>
    intro hjoining step steps hhistory
    dsimp only
    rw [hhistory, History.record_joined hjoining]
  case begins => exact History.record_alone

/-- An edit at any other place is refused. -/
theorem apply_of_not_offers (h : ¬ e.Offers edit.document edit.position) :
    ∃ error, e.apply edit = .error error ∧ e.Refuses edit error := by
  cases hd : e.get? edit.document with
  | none => exact ⟨_, by rw [apply, hd], .unknown hd⟩
  | some d =>
    cases hcheck : d.check? edit.position with
    | none => exact absurd ⟨d, hd, Document.check?_eq_none_iff_le.mp hcheck⟩ h
    | some rejection => exact ⟨_, apply_refused hd hcheck, .rejected hd hcheck⟩

end Editor

end Semicolon
