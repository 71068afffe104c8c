import Semicolon.Proofs.Editor.Edits
import Semicolon.Proofs.Session.Runs

/-!
# Session — an edit is carried out in full or not at all

An edit is typed or inserted (`Action.AsksFor`).  The session does with it what its editor does
(`exists_perform_eq`).

**Main result** (`edit_all_or_nothing`).  An edit is refused exactly if its place is not offered,
and then the session stays as it was; otherwise its text is put in between two characters of its
document, the history gains this one edit, and nothing else changes.
-/

namespace Semicolon

/-- The action asks for the edit: it types the text, or it inserts it. -/
inductive Action.AsksFor (edit : Edit) : Action → Prop where
  | typed (h : edit.joining = .separate) :
      AsksFor edit (.type edit.document edit.position edit.text .keep)
  | inserted : AsksFor edit (.insert edit)

namespace Session

variable {s : Session} {action : Action} {edit : Edit}

/-- The session takes the editor with the edit, or says why its editor refuses the edit and stays as
it is. -/
theorem exists_perform_eq (hwritable : s.editor.isReadOnly = false) (h : action.AsksFor edit) :
    ∃ answer, (∀ error, answer ≠ Answer.refused error) ∧
      s.perform action = match s.editor.apply edit with
        | .error error => (.refused error, s)
        | .ok e        => (answer, s.withEditor e) := by
  cases h with
  | typed hjoining =>
    obtain ⟨name, p, text, joining⟩ := edit
    obtain rfl : joining = .separate := hjoining
    refine ⟨.reported (.typed name p text), fun _ => Answer.noConfusion, ?_⟩
    rw [perform, type, Editor.type_eq_map]
    cases s.editor.apply ⟨name, p, text, .separate⟩ <;> rfl
  | inserted =>
    refine ⟨.done, fun _ => Answer.noConfusion, ?_⟩
    have hinsert := Editor.insert_of_writable hwritable edit
    cases happly : s.editor.apply edit <;> rw [perform, hinsert, happly]

/-- An edit is refused exactly if its place is not offered; then nothing changes, and otherwise the
edit is all that changes. -/
theorem edit_all_or_nothing (hwritable : s.editor.isReadOnly = false) (h : action.AsksFor edit) :
    ((∃ error, (s.perform action).1 = .refused error) ↔
      ¬ s.editor.Offers edit.document edit.position) ∧
    (∀ error, (s.perform action).1 = .refused error →
      s.editor.Refuses edit error ∧ (s.perform action).2 = s) ∧
    (s.editor.Offers edit.document edit.position →
      ∃ e, (s.perform action).2 = s.withEditor e ∧ s.editor.Edited e edit) := by
  obtain ⟨answer, hanswer, hperform⟩ := exists_perform_eq hwritable h
  by_cases hoffers : s.editor.Offers edit.document edit.position
  · obtain ⟨e, happly, hedited⟩ := Editor.apply_of_offers hoffers
    rw [happly] at hperform
    rw [hperform]
    refine ⟨⟨?_, absurd hoffers⟩, fun error herror => absurd herror (hanswer error),
      fun _ => ⟨e, rfl, hedited⟩⟩
    rintro ⟨error, herror⟩
    exact absurd herror (hanswer error)
  · obtain ⟨error, happly, hrefuses⟩ := Editor.apply_of_not_offers hoffers
    rw [happly] at hperform
    rw [hperform]
    refine ⟨⟨fun _ => hoffers, fun _ => ⟨error, rfl⟩⟩, fun error' herror => ?_,
      fun h => absurd h hoffers⟩
    obtain rfl : error = error' := Answer.refused.inj herror
    exact ⟨hrefuses, rfl⟩

/-- A line break was typed behind a call. -/
def ofCall : Session :=
  (ofDocument "Main" ⟨"java", "foo()".toList⟩).run [.type "Main" ⟨0, 5⟩ ['\n'] .keep]

/-- An insertion joins the line break, and one past the end of the line is refused. -/
theorem edit_all_or_nothing_of_call :
    ofCall.editor.isReadOnly = false ∧
      (∃ e, (ofCall.perform (.insert ⟨"Main", ⟨0, 5⟩, [';'], .withPrevious⟩)).2 =
          ofCall.withEditor e ∧
        e.history = [[⟨"Main", ⟨0, 5⟩, [';'], .withPrevious⟩,
          ⟨"Main", ⟨0, 5⟩, ['\n'], .separate⟩]]) ∧
      (ofCall.perform (.type "Main" ⟨0, 6⟩ ['x'] .keep)).2 = ofCall := by
  have hwritable : ofCall.editor.isReadOnly = false := by decide
  have hinserted : Action.AsksFor ⟨"Main", ⟨0, 5⟩, [';'], .withPrevious⟩
      (.insert ⟨"Main", ⟨0, 5⟩, [';'], .withPrevious⟩) := .inserted
  have htyped : Action.AsksFor ⟨"Main", ⟨0, 6⟩, ['x'], .separate⟩
      (.type "Main" ⟨0, 6⟩ ['x'] .keep) := .typed rfl
  obtain ⟨-, -, htaken⟩ := edit_all_or_nothing hwritable hinserted
  obtain ⟨-, hrefused, -⟩ := edit_all_or_nothing hwritable htyped
  obtain ⟨e, he, hedited⟩ := htaken ⟨_, rfl, by decide, by decide⟩
  refine ⟨hwritable, ⟨e, he, hedited.joins rfl _ _ rfl⟩, ?_⟩
  exact (hrefused (.rejected (.columnPastEnd ⟨0, 6⟩ 5)) (by decide)).2

end Session

end Semicolon
