import Semicolon.Proofs.Document.Insertions
import Semicolon.Proofs.Editor.Keystroke

/-!
# Editor — the documents that a history makes

The history of an editor that began with the documents `start` is a record of how its documents came
about: carried out in their order, its edits make the documents out of `start` (`History.Makes`).
No other documents come about in this way (`Makes.unique`), so the documents are a function of the
history.

* `Makes.undo`: undoing the newest step gives the documents that the older steps made, if carriage
  returns belong to line breaks in `start` and in every text that was put in.
* `Evolves`: what a user and the dispatcher can do to the documents and the history; the documents
  stay those that the history makes (`Evolves.makes`), and all steps but the newest were there
  before (`Evolves.tail_suffix`).
-/

namespace Semicolon
open Text

/-- In every open document, carriage returns belong to line breaks. -/
def Documents.Paired (ds : Documents) : Prop :=
  ∀ name d, ds.get? name = some d → ReturnsPaired d.text

theorem Documents.paired_of_forall {ds : Documents} (h : ∀ p ∈ ds, ReturnsPaired p.2.text) :
    ds.Paired := by
  intro name d hd
  induction ds with
  | nil => cases hd
  | cons p ds ih =>
    rw [List.forall_mem_cons] at h
    rw [get?] at hd
    split at hd
    · cases hd
      exact h.1
    · exact ih h.2 hd

/-! ### One edit -/

/-- The edit makes the second documents out of the first. -/
structure Edit.Makes (edit : Edit) (ds ds' : Documents) : Prop where
  text_paired : ReturnsPaired edit.text
  inserts : ∃ d d', ds.get? edit.document = some d ∧ d.insert edit.position edit.text = .ok d' ∧
    ds' = ds.put edit.document d'

namespace Edit.Makes

variable {edit : Edit} {ds ds₁ ds₂ : Documents}

theorem unique (h₁ : edit.Makes ds ds₁) (h₂ : edit.Makes ds ds₂) : ds₁ = ds₂ := by
  obtain ⟨d, d₁, hd, hd₁, rfl⟩ := h₁.inserts
  obtain ⟨d', d₂, hd', hd₂, rfl⟩ := h₂.inserts
  obtain rfl : d = d' := Option.some.inj (hd.symm.trans hd')
  obtain rfl : d₁ = d₂ := Except.ok.inj (hd₁.symm.trans hd₂)
  rfl

theorem paired (h : edit.Makes ds ds₁) (hds : ds.Paired) : ds₁.Paired := by
  obtain ⟨d, d₁, hd, hd₁, rfl⟩ := h.inserts
  intro name d' hd'
  by_cases hname : name = edit.document
  · subst hname
    rw [Documents.get?_put_self, Option.some.injEq] at hd'
    rw [← hd']
    exact (Document.insert_of_paired (hds _ d hd) h.text_paired hd₁).1
  · rw [Documents.get?_put_of_ne _ _ hname] at hd'
    exact hds name d' hd'

/-- Reverting an edit gives the documents back. -/
theorem revert (h : edit.Makes ds ds₁) (hds : ds.Paired) : Editor.revert ds₁ edit = ds := by
  obtain ⟨d, d₁, hd, hd₁, rfl⟩ := h.inserts
  have hback := (Document.insert_of_paired (hds _ d hd) h.text_paired hd₁).2
  rw [Editor.revert, Documents.get?_put_self]
  dsimp only
  rw [hback, Documents.put_put, Documents.put_get? hd]

end Edit.Makes

/-! ### A history -/

/-- An edit that is recorded changes the newest step only. -/
theorem History.tail_record_suffix (edit : Edit) (history : History) :
    (history.record edit).tail <:+ history := by
  cases history with
  | nil => exact List.nil_suffix
  | cons step steps =>
    cases hjoining : edit.joining with
    | withPrevious =>
      rw [record_joined hjoining]
      exact List.suffix_cons step steps
    | separate =>
      rw [record_separate hjoining]
      exact List.suffix_rfl

/-- The edits of the history, in their order, make the second documents out of the first. -/
inductive History.Makes (start : Documents) : History → Documents → Prop where
  | nothing : Makes start [] start
  | separate {edit : Edit} {steps : History} {ds ds' : Documents}
      (h : Makes start steps ds) (hedit : edit.Makes ds ds') : Makes start ([edit] :: steps) ds'
  | joined {edit : Edit} {step : List Edit} {steps : History} {ds ds' : Documents}
      (h : Makes start (step :: steps) ds) (hedit : edit.Makes ds ds') :
      Makes start ((edit :: step) :: steps) ds'

namespace History.Makes

variable {start ds ds' : Documents} {history steps : History} {step : List Edit} {edit : Edit}

/-- A step has an edit at least. -/
theorem step_ne_nil (h : Makes start (step :: steps) ds) : step ≠ [] := by
  cases h <;> exact List.cons_ne_nil _ _

/-- The documents are a function of the history. -/
theorem unique (h : Makes start history ds) (h' : Makes start history ds') : ds = ds' := by
  induction h generalizing ds' with
  | nothing =>
    cases h'
    rfl
  | separate _ hedit ih =>
    cases h' with
    | separate h' hedit' =>
      obtain rfl := ih h'
      exact hedit.unique hedit'
    | joined h' => exact absurd rfl h'.step_ne_nil
  | joined h hedit ih =>
    cases h' with
    | separate => exact absurd rfl h.step_ne_nil
    | joined h' hedit' =>
      obtain rfl := ih h'
      exact hedit.unique hedit'

theorem paired (hstart : start.Paired) (h : Makes start history ds) : ds.Paired := by
  induction h with
  | nothing => exact hstart
  | separate _ hedit ih => exact hedit.paired ih
  | joined _ hedit ih => exact hedit.paired ih

/-- An edit that is recorded makes its documents out of those before. -/
theorem record (h : Makes start history ds) (hedit : edit.Makes ds ds') :
    Makes start (history.record edit) ds' := by
  cases history with
  | nil => exact .separate h hedit
  | cons step steps =>
    rw [History.record]
    cases edit.joining with
    | withPrevious => exact .joined h hedit
    | separate => exact .separate h hedit

/-- Undoing the newest step gives the documents that the older steps made. -/
theorem undo (hstart : start.Paired) (h : Makes start (step :: steps) ds) :
    Makes start steps (step.foldl Editor.revert ds) := by
  induction step generalizing ds with
  | nil => exact absurd rfl h.step_ne_nil
  | cons edit step ih =>
    rw [List.foldl_cons]
    cases h with
    | separate h hedit =>
      -- the newest edit of the step goes first, in documents that are paired
      rw [hedit.revert (h.paired hstart)]
      exact h
    | joined h hedit =>
      rw [hedit.revert (h.paired hstart)]
      exact ih h

end History.Makes

/-! ### What can become of an editor -/

namespace Editor

/-- What can become of the documents and the history of an editor in which no document is opened. -/
inductive Evolves (e e' : Editor) : Prop where
  | kept (documents_eq : e'.documents = e.documents) (history_eq : e'.history = e.history)
  | edited (edit : Edit) (text_paired : ReturnsPaired edit.text) (h : e.apply edit = .ok e')
  /-- A text was typed, and an edit joined it. -/
  | typed (name : String) (p : Position) (text : Text) (e₁ : Editor) (joined : Edit)
      (text_paired : ReturnsPaired text) (h : e.apply ⟨name, p, text, .separate⟩ = .ok e₁)
      (joined_paired : ReturnsPaired joined.text) (joining_eq : joined.joining = .withPrevious)
      (h₁ : e₁.apply joined = .ok e')
  | undone (h : e.undo? = some e')

variable {e e' : Editor} {start : Documents} {edit : Edit}

theorem makes_of_apply (htext : ReturnsPaired edit.text) (h : e.apply edit = .ok e')
    (hmakes : History.Makes start e.history e.documents) :
    History.Makes start e'.history e'.documents := by
  obtain ⟨d, d', hd, hd', rfl⟩ := apply_eq_ok h
  exact hmakes.record ⟨htext, d, d', hd, hd', rfl⟩

/-- Undo reverts the edits of the newest step and keeps the other steps. -/
theorem undo?_eq_some (h : e.undo? = some e') :
    ∃ step, e.history = step :: e'.history ∧ e'.documents = step.foldl revert e.documents := by
  rw [undo?] at h
  split at h
  · cases h
  next step steps hhistory =>
  cases h
  exact ⟨step, hhistory, rfl⟩

/-- The documents stay those that the history makes. -/
theorem Evolves.makes (hstart : start.Paired) (h : e.Evolves e')
    (hmakes : History.Makes start e.history e.documents) :
    History.Makes start e'.history e'.documents := by
  cases h with
  | kept documents_eq history_eq => rwa [documents_eq, history_eq]
  | edited edit text_paired h => exact makes_of_apply text_paired h hmakes
  | typed name p text e₁ joined text_paired h joined_paired joining_eq h₁ =>
    exact makes_of_apply joined_paired h₁ (makes_of_apply text_paired h hmakes)
  | undone h =>
    obtain ⟨step, hhistory, hdocuments⟩ := undo?_eq_some h
    rw [hhistory] at hmakes
    rw [hdocuments]
    exact hmakes.undo hstart

/-- All steps but the newest were there before. -/
theorem Evolves.tail_suffix (h : e.Evolves e') : e'.history.tail <:+ e.history := by
  cases h with
  | kept _ history_eq =>
    rw [history_eq]
    exact List.tail_suffix e.history
  | edited edit _ h =>
    obtain ⟨d, d', -, -, rfl⟩ := apply_eq_ok h
    exact History.tail_record_suffix edit e.history
  | typed name p text e₁ joined _ h _ joining_eq h₁ =>
    obtain ⟨d, d', -, -, rfl⟩ := apply_eq_ok h
    obtain ⟨d₁, d₁', -, -, rfl⟩ := apply_eq_ok h₁
    -- the edit joins the step of the keystroke, which is a step of its own
    have htyped : e.history.record ⟨name, p, text, .separate⟩ =
        [⟨name, p, text, .separate⟩] :: e.history := History.record_separate rfl e.history
    dsimp only
    rw [htyped, History.record_joined joining_eq]
    exact List.suffix_rfl
  | undone h =>
    obtain ⟨step, hhistory, -⟩ := undo?_eq_some h
    rw [hhistory]
    exact (List.tail_suffix e'.history).trans (List.suffix_cons step e'.history)

end Editor

end Semicolon
