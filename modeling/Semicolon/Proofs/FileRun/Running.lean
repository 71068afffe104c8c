import Semicolon.FileRun
import Semicolon.Proofs.Dispatcher.Breaks
import Semicolon.Proofs.Editor.Keystroke
import Semicolon.Proofs.FileRun.Terminators
import Semicolon.Proofs.Settings.Cache

/-!
# FileRun — the dispatcher of a run

`Running settings language name d text` is the invariant of a run: the settings are in use, without
their delay, and the document with the name is open, has the focus and holds the text.

* `running_start`: a run begins with its text.
* `Running.type` and `Running.insert`: typing and inserting at the end of a line.
* `Running.undo_break`: a line break is undone.
* `Running.handle` and `Running.handle_line`: what an event does to the run, and what comes of it if
  it is a line break at the end of a line.
-/

namespace Semicolon.FileRun
open Text Dispatcher

/-- The run decides by these settings, and `text` is the text of its document. -/
structure Running (settings : Settings) (language : Language) (name : String) (d : Dispatcher)
    (text : Text) : Prop where
  settings_eq : d.cache.get.1 = settings.withoutDelay
  get?_eq : d.editor.get? name = some ⟨language.id, text⟩
  focused_eq : d.editor.focused = some name
  isReadOnly_eq : d.editor.isReadOnly = false

/-- A run begins with its text. -/
theorem running_start (settings : Settings) (language : Language) (name : String) (text : Text) :
    Running settings language name (start settings name language text) text where
  settings_eq := Cache.get_ofSource (Cache.load_withoutDelay settings)
  get?_eq := Documents.get?_put_self name _ _
  focused_eq := rfl
  isReadOnly_eq := rfl

namespace Running

variable {settings : Settings} {language : Language} {name : String} {d : Dispatcher}
  {text stem returns rest : Text} {before : List Text} {column : Nat}

/-! ### Edits -/

/-- A text is typed behind the stem of a line. -/
theorem type (h : Running settings language name d text)
    (hs : StemAt text before stem returns rest) (hlow : stem.length ≤ column)
    (hhigh : column ≤ (stem ++ returns.dropLast).length) (x : Text) :
    ∃ e, e = d.editor.typed name
        ⟨language.id, terminated before ++ stem ++ (x ++ (returns ++ rest))⟩
        ⟨before.length, column⟩ x ∧
      d.editor.type name ⟨before.length, column⟩ x =
        .ok (.typed name ⟨before.length, column⟩ x, e) ∧
      Running settings language name { d with editor := e }
        (terminated before ++ stem ++ (x ++ (returns ++ rest))) := by
  have hcheck : Document.check? ⟨language.id, text⟩ ⟨before.length, column⟩ = none :=
    Document.check?_of_stemAt hs hhigh
  have hcut : Document.Cuts ⟨language.id, text⟩ _ _ _ := Document.cuts_behind_stem hs hlow
  refine ⟨_, rfl, Editor.type_eq h.get?_eq (hcut.insert_eq hcheck x), h.settings_eq, ?_,
    h.focused_eq, h.isReadOnly_eq⟩
  exact Editor.get?_typed

/-- A text is inserted behind the stem of a line. -/
theorem insert (h : Running settings language name d text)
    (hs : StemAt text before stem returns rest) (hlow : stem.length ≤ column)
    (hhigh : column ≤ (stem ++ returns.dropLast).length) (x : Text) (joining : Joining) :
    ∃ e, d.editor.insert ⟨name, ⟨before.length, column⟩, x, joining⟩ = .ok e ∧
      Running settings language name { d with editor := e }
        (terminated before ++ stem ++ (x ++ (returns ++ rest))) := by
  have hcheck : Document.check? ⟨language.id, text⟩ ⟨before.length, column⟩ = none :=
    Document.check?_of_stemAt hs hhigh
  have hcut : Document.Cuts ⟨language.id, text⟩ _ _ _ := Document.cuts_behind_stem hs hlow
  let edit : Edit := ⟨name, ⟨before.length, column⟩, x, joining⟩
  have hget : d.editor.get? edit.document = some ⟨language.id, text⟩ := h.get?_eq
  have hedit := Editor.insert_eq hget h.isReadOnly_eq (hcut.insert_eq hcheck x)
  refine ⟨_, hedit, h.settings_eq, ?_, h.focused_eq, h.isReadOnly_eq⟩
  exact Documents.get?_put_self name _ _

/-- A line break that is typed behind the stem of a line is undone. -/
theorem undo_break (h : Running settings language name d text)
    (hs : StemAt text before stem returns rest) (hlow : stem.length ≤ column) :
    (d.editor.typed name ⟨language.id, terminated before ++ stem ++ (['\n'] ++ (returns ++ rest))⟩
      ⟨before.length, column⟩ ['\n']).undo? = some d.editor := by
  have hsplits : Document.Splits ⟨language.id, text⟩ _ _ _ _ := Document.splits_behind_stem hs hlow
  exact Editor.undo?_typed h.get?_eq (hsplits.remove_break hs.stem_last (.inl rfl))

/-- The length of a line counts all carriage returns at its end but one. -/
theorem lineLength_eq (h : Running settings language name d text)
    (hs : StemAt text before stem returns rest) :
    ((d.editor.get? name).map (·.lineLength before.length)).getD 0 =
      (stem ++ returns.dropLast).length := by
  have hline : Document.line? ⟨language.id, text⟩ before.length = some (stem ++ returns.dropLast) :=
    Document.line?_of_stemAt hs
  rw [h.get?_eq, Option.map_some, Option.getD_some, Document.lineLength, hline]
  rfl

/-! ### Events -/

/-- An event does nothing to the run. -/
theorem handle (h : Running settings language name d text) {event : Event} {change : Change}
    (hc : event.firstChange? = some change) (now : Nat) :
    Running settings language name (d.handle now event).2 text := by
  have heditor := handle_editor d now event
  constructor
  · rw [handle_cache hc, Cache.get_get, h.settings_eq]
  · rw [heditor, h.get?_eq]
  · rw [heditor, h.focused_eq]
  · rw [heditor, h.isReadOnly_eq]

/-- A line break is skipped, or the line that it leaves is decided. -/
theorem handle_break (h : Running settings language name d text)
    (hs : StemAt text before stem returns rest) (now : Nat) :
    (settings.admits language = true →
      (d.handle now (.typed name ⟨before.length, column⟩ ['\n'])).1 = .decided
        (breakVerdict settings language ⟨language.id, text⟩ before stem returns column)) ∧
    (settings.admits language = false → ∃ reason,
      (d.handle now (.typed name ⟨before.length, column⟩ ['\n'])).1 = .skipped reason) := by
  let event : Event := .typed name ⟨before.length, column⟩ ['\n']
  have hchange : event.firstChange? = some (.insertion ⟨before.length, column⟩ ['\n']) := rfl
  -- the settings of a run have no delay, so the line break is not dropped
  have hdelay : d.cache.get.1.debounceDelay = 0 := by
    rw [h.settings_eq]
    rfl
  rw [handle_outcome_of_no_delay hchange d now hdelay, h.settings_eq]
  constructor
  · intro ha
    exact judge_of_stemAt h.get?_eq rfl ha rfl h.focused_eq hs rfl
  · intro ha
    exact judge_of_not_admits h.get?_eq rfl ha _

/-- A line break behind a line brings the verdict to insert, if the line gets a terminator behind
the text in front of it, and no such verdict otherwise. -/
theorem handle_line {line : Text} (h : Running settings language name d text)
    (hs : StemAt text before line [] rest) (hc : line.length ≤ column) (now : Nat) :
    (terminates settings language (terminated before) line = true →
      ∃ v, (d.handle now (.typed name ⟨before.length, column⟩ ['\n'])).1 = .decided v ∧
        v.classification.decision = .insert ∧ v.snapshot.line = before.length ∧
        v.snapshot.endPosition = ⟨before.length, line.length⟩) ∧
    (terminates settings language (terminated before) line = false →
      ∀ v, (d.handle now (.typed name ⟨before.length, column⟩ ['\n'])).1 = .decided v →
        v.classification.decision = .suppress) := by
  obtain ⟨hadmitted, hskipped⟩ := h.handle_break hs now
  have hclass : (breakVerdict settings language ⟨language.id, text⟩ before line []
      column).classification = classifyLine settings language (terminated before) line line := by
    rw [breakVerdict, List.take_of_length_le hc, List.dropLast_nil, List.append_nil]
  constructor
  · intro hon
    obtain ⟨ha, hdecision⟩ := Bool.and_eq_true_iff.mp hon
    refine ⟨_, hadmitted ha, ?_, rfl, ?_⟩
    · rw [hclass]
      exact of_decide_eq_true hdecision
    · exact congrArg (Position.mk before.length ·.length) (List.append_nil line)
  · -- what is not admitted is skipped, and of the two decisions one is left
    intro hoff v hv
    cases ha : settings.admits language with
    | false =>
      obtain ⟨reason, hreason⟩ := hskipped ha
      rw [hreason] at hv
      cases hv
    | true =>
      rw [hadmitted ha] at hv
      rw [terminates, ha, Bool.true_and] at hoff
      rw [← Outcome.decided.inj hv, hclass]
      cases hdecision : (classifyLine settings language (terminated before) line line).decision with
      | suppress => rfl
      | insert => exact absurd hdecision (of_decide_eq_false hoff)

end Running

end Semicolon.FileRun
