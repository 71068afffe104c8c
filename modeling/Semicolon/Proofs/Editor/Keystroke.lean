import Semicolon.Editor

/-!
# Editor — a keystroke and its undo

* `apply_eq` and `apply_refused`: an edit at a place that the document accepts, as a new editor, and
  at any other place; keystrokes (`type_eq_map`) and insertions (`insert_of_writable`) are edits.
* `type_eq` and `type_refused`: the same of a keystroke.
* `apply_eq_ok`: all that an edit that was carried out says about the editor; keystrokes and
  insertions are edits (`apply_of_type`, `apply_of_insert`).
* `insert_eq` and `insert_eq_ok`: the same of an insertion, in both directions.
* `undo?_typed` and `undo?_insert_typed`: a keystroke is undone, with the insertion that joined it,
  if the document finds each text again where it was put in.
-/

namespace Semicolon

theorem History.record_separate {edit : Edit} (h : edit.joining = .separate) (history : History) :
    history.record edit = [edit] :: history := by
  cases history with
  | nil => rfl
  | cons step steps => rw [record, h]

theorem History.record_joined {edit : Edit} (h : edit.joining = .withPrevious) (step : List Edit)
    (steps : History) : History.record edit (step :: steps) = (edit :: step) :: steps := by
  rw [record, h]

namespace Editor

/-- The editor after a keystroke that made a document out of the one with the name. -/
def typed (e : Editor) (name : String) (d : Document) (p : Position) (text : Text) : Editor :=
  { e with
    documents := e.documents.put name d
    history   := [⟨name, p, text, .separate⟩] :: e.history }

section

variable {e e' : Editor} {name : String} {d d' : Document} {p : Position} {text : Text}
  {edit : Edit}

theorem get?_typed : (e.typed name d' p text).get? name = some d' := Documents.get?_put_self _ _ _

/-- An edit that the document accepts is put into it and recorded. -/
theorem apply_eq (hd : e.get? edit.document = some d)
    (h : d.insert edit.position edit.text = .ok d') :
    e.apply edit = .ok { e with
      documents := e.documents.put edit.document d', history := e.history.record edit } := by
  rw [apply, hd]
  simp only [h]

/-- An edit at a place that the document does not accept is refused. -/
theorem apply_refused (hd : e.get? edit.document = some d) {r : Rejection}
    (h : d.check? edit.position = some r) : e.apply edit = .error (.rejected r) := by
  rw [apply, hd]
  simp only [Document.insert, h]

/-- A keystroke is an edit that is reported. -/
theorem type_eq_map (e : Editor) (name : String) (p : Position) (text : Text) :
    e.type name p text =
      (e.apply ⟨name, p, text, .separate⟩).map fun e' => (.typed name p text, e') := by
  rw [type]
  cases e.apply ⟨name, p, text, .separate⟩ <;> rfl

theorem type_eq (hd : e.get? name = some d) (h : d.insert p text = .ok d') :
    e.type name p text = .ok (.typed name p text, e.typed name d' p text) := by
  have happly : e.apply ⟨name, p, text, .separate⟩ = .ok (e.typed name d' p text) := by
    rw [apply_eq hd h, History.record_separate rfl]
    rfl
  rw [type_eq_map, happly]
  rfl

/-- A keystroke at a place that the document does not accept is refused. -/
theorem type_refused (hd : e.get? name = some d) {r : Rejection} (h : d.check? p = some r) :
    e.type name p text = .error (.rejected r) := by
  have happly : e.apply ⟨name, p, text, .separate⟩ = .error (.rejected r) := apply_refused hd h
  rw [type_eq_map, happly]
  rfl

/-- In an editor that takes insertions they are edits. -/
theorem insert_of_writable (h : e.isReadOnly = false) (edit : Edit) :
    e.insert edit = e.apply edit := by
  rw [insert, h]
  rfl

theorem insert_eq (hd : e.get? edit.document = some d) (hwritable : e.isReadOnly = false)
    (h : d.insert edit.position edit.text = .ok d') :
    e.insert edit = .ok { e with
      documents := e.documents.put edit.document d', history := e.history.record edit } := by
  rw [insert_of_writable hwritable, apply_eq hd h]

/-- All that an edit that was carried out says about the editor. -/
theorem apply_eq_ok (h : e.apply edit = .ok e') :
    ∃ d d', e.get? edit.document = some d ∧ d.insert edit.position edit.text = .ok d' ∧
      e' = { e with
        documents := e.documents.put edit.document d', history := e.history.record edit } := by
  rw [apply] at h
  split at h
  · cases h
  next d hd =>
  split at h
  · cases h
  next d' hd' =>
  cases h
  exact ⟨d, d', hd, hd', rfl⟩

/-- A keystroke that was reported is an edit that was carried out. -/
theorem apply_of_type {event : Event} (h : e.type name p text = .ok (event, e')) :
    e.apply ⟨name, p, text, .separate⟩ = .ok e' := by
  rw [type] at h
  cases happly : e.apply ⟨name, p, text, .separate⟩ with
  | error error =>
    rw [happly] at h
    cases h
  | ok e₁ =>
    rw [happly] at h
    cases h
    rfl

theorem apply_of_insert (h : e.insert edit = .ok e') :
    e.isReadOnly = false ∧ e.apply edit = .ok e' := by
  rw [insert] at h
  split at h
  · cases h
  next hreadOnly => exact ⟨eq_false_of_ne_true hreadOnly, h⟩

theorem insert_eq_ok (h : e.insert edit = .ok e') :
    e.isReadOnly = false ∧ ∃ d d', e.get? edit.document = some d ∧
      d.insert edit.position edit.text = .ok d' ∧
      e' = { e with
        documents := e.documents.put edit.document d', history := e.history.record edit } :=
  ⟨(apply_of_insert h).1, apply_eq_ok (apply_of_insert h).2⟩

/-! ### Undo -/

theorem undo?_of_cons {step : List Edit} {steps : History} (h : e.history = step :: steps) :
    e.undo? =
      some { e with documents := step.foldl revert e.documents, history := steps } := by
  rw [undo?, h]

/-- A keystroke is undone if its text is found again. -/
theorem undo?_typed (hd : e.get? name = some d) (hback : d'.remove p text = d) :
    (e.typed name d' p text).undo? = some e := by
  have hget : Documents.get? (e.documents.put name d') name = some d' :=
    Documents.get?_put_self _ _ _
  have hrevert : revert (e.documents.put name d') ⟨name, p, text, .separate⟩ = e.documents := by
    rw [revert, hget]
    dsimp only
    rw [hback, Documents.put_put, Documents.put_get? hd]
  rw [undo?, typed]
  simp only [List.foldl_cons, List.foldl_nil, hrevert]

/-- An insertion that joins a keystroke is undone with it, if both texts are found again. -/
theorem undo?_insert_typed (hd : e.get? name = some d) (hback : d'.remove p text = d)
    (hdocument : edit.document = name) (hjoining : edit.joining = .withPrevious)
    (hinsert : (e.typed name d' p text).insert edit = .ok e')
    (hfound : ∀ d'', d'.insert edit.position edit.text = .ok d'' →
      d''.remove edit.position edit.text = d') :
    e'.undo? = some e ∧ e'.history.length = e.history.length + 1 := by
  subst hdocument
  obtain ⟨-, d₁, d₂, hd₁, hd₂, rfl⟩ := insert_eq_ok hinsert
  obtain rfl : d' = d₁ := Option.some.inj (get?_typed.symm.trans hd₁)
  have hrecord : (e.typed edit.document d' p text).history.record edit =
      [edit, ⟨edit.document, p, text, .separate⟩] :: e.history :=
    History.record_joined hjoining _ _
  refine ⟨?_, by rw [hrecord]; rfl⟩
  -- the newest edit goes first, and what is left is the keystroke alone
  have hget : Documents.get? ((e.typed edit.document d' p text).documents.put edit.document d₂)
      edit.document = some d₂ := Documents.get?_put_self _ _ _
  have hrevert : revert ((e.typed edit.document d' p text).documents.put edit.document d₂) edit =
      (e.typed edit.document d' p text).documents := by
    rw [revert, hget]
    dsimp only
    rw [hfound d₂ hd₂, Documents.put_put, Documents.put_get? hd₁]
  rw [← undo?_typed hd hback, undo?, hrecord]
  simp only [List.foldl_cons, hrevert]
  rfl

end

end Editor

end Semicolon
