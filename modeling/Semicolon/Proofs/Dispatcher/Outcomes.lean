import Semicolon.Dispatcher
import Semicolon.Proofs.Dispatcher.LineVerdict

/-!
# Dispatcher — the outcome of an event

`judge` is the part of an event's handling that neither the clock nor earlier events touch.

* `handle_outcome`: an event with a change is debounced, or judged by the settings in effect;
  without a delay it is judged (`handle_outcome_of_no_delay`).
* `judge_of_admits` and `judge_of_not_admits`: what the judgement is, by the settings alone.
* `judge_eq_decided`: all that a decision says about the settings, the editor and the change.
* `handleAndEdit_cases`: the editor stays as it is, or one terminator is inserted.
-/

namespace Semicolon

/-- The settings have this language decided. -/
def Settings.admits (s : Settings) (l : Language) : Bool :=
  s.enabled && s.languages.contains l.id && s.enableFor.get l

theorem admission_of_admits {settings : Settings} {editor : Editor} {name : String} {d : Document}
    {l : Language} (hd : editor.get? name = some d) (hl : d.languageId = l.id)
    (ha : settings.admits l = true) : admission settings editor name = .ok (d, l) := by
  simp only [Settings.admits, Bool.and_eq_true] at ha
  obtain ⟨⟨henabled, hlisted⟩, hon⟩ := ha
  simp [admission, hd, hl, Language.ofId?_id, henabled, List.contains_iff_mem.mp hlisted, hon]

theorem admission_of_not_admits {settings : Settings} {editor : Editor} {name : String}
    {d : Document} {l : Language} (hd : editor.get? name = some d) (hl : d.languageId = l.id)
    (ha : settings.admits l = false) :
    ∃ reason, admission settings editor name = .error reason := by
  rw [admission]
  split
  · exact ⟨_, rfl⟩
  next henabled =>
  simp only [hd, hl, Language.ofId?_id]
  split
  · exact ⟨_, rfl⟩
  next hlisted =>
  split
  · exact ⟨_, rfl⟩
  next hon =>
  simp_all [Settings.admits]

/-- What is admitted is an open document in a language that the settings admit. -/
theorem admission_eq_ok {settings : Settings} {editor : Editor} {name : String} {d : Document}
    {l : Language} (h : admission settings editor name = .ok (d, l)) :
    editor.get? name = some d ∧ d.languageId = l.id ∧ settings.admits l = true := by
  rw [admission] at h
  split at h
  · cases h
  next henabled =>
  split at h
  · cases h
  next d' hd =>
  split at h
  · cases h
  next hlisted =>
  split at h
  · cases h
  next l' hl =>
  split at h
  · cases h
  next hon =>
  cases h
  have hid := Language.id_of_ofId? hl
  refine ⟨hd, hid.symm, ?_⟩
  simp only [Settings.admits, hid]
  simp_all

theorem Outcome.decision?_eq_some {outcome : Outcome} {decision : Decision}
    (h : outcome.decision? = some decision) :
    ∃ v, outcome = .decided v ∧ v.classification.decision = decision := by
  cases outcome with
  | skipped reason => cases h
  | decided v => exact ⟨v, rfl, Option.some.inj h⟩

namespace Dispatcher

/-! ### Judging a change -/

/-- What comes of a change that is not debounced. -/
def judge (settings : Settings) (editor : Editor) (document : String) (change : Change) : Outcome :=
  match admission settings editor document with
  | .error reason    => .skipped reason
  | .ok (d, language) =>
    match snapshotOf settings editor document d change with
    | .error reason => .skipped reason
    | .ok snapshot  =>
      .decided ⟨language, verdictOn settings d language change.range.start snapshot, snapshot⟩

/-- A snapshot is taken of a line break in the focused document only. -/
theorem snapshotOf_eq_ok {settings : Settings} {editor : Editor} {name : String} {d : Document}
    {change : Change} {snapshot : Snapshot}
    (h : snapshotOf settings editor name d change = .ok snapshot) :
    change.isBareNewline = true ∧ editor.focused = some name ∧
      snapshotAt? settings d change.range.start.line = some snapshot := by
  rw [snapshotOf] at h
  split at h
  · cases h
  next hbare =>
  split at h
  · cases h
  next hfocused =>
  split at h
  · cases h
  next snapshot' hs =>
  cases h
  exact ⟨by simpa using hbare, by simpa using hfocused, hs⟩

/-- All that a decision says about the settings, the editor and the change. -/
theorem judge_eq_decided {settings : Settings} {editor : Editor} {name : String} {change : Change}
    {v : Verdict} (h : judge settings editor name change = .decided v) :
    ∃ d, editor.get? name = some d ∧ d.languageId = v.language.id ∧
      settings.admits v.language = true ∧ change.isBareNewline = true ∧
      editor.focused = some name ∧
      snapshotAt? settings d change.range.start.line = some v.snapshot ∧
      v.classification = verdictOn settings d v.language change.range.start v.snapshot := by
  rw [judge] at h
  split at h
  · cases h
  next d l hadmission =>
  split at h
  · cases h
  next snapshot hsnapshot =>
  cases h
  obtain ⟨hd, hl, ha⟩ := admission_eq_ok hadmission
  obtain ⟨hbare, hfocused, hs⟩ := snapshotOf_eq_ok hsnapshot
  exact ⟨d, hd, hl, ha, hbare, hfocused, hs, rfl⟩

/-- A line break in the focused document is decided, if the settings admit the language. -/
theorem judge_of_admits {settings : Settings} {editor : Editor} {name : String} {d : Document}
    {l : Language} {change : Change} {snapshot : Snapshot} (hd : editor.get? name = some d)
    (hl : d.languageId = l.id) (ha : settings.admits l = true)
    (hbare : change.isBareNewline = true) (hfocused : editor.focused = some name)
    (hs : snapshotAt? settings d change.range.start.line = some snapshot) :
    judge settings editor name change =
      .decided ⟨l, verdictOn settings d l change.range.start snapshot, snapshot⟩ := by
  have hsnapshot : snapshotOf settings editor name d change = .ok snapshot := by
    simp [snapshotOf, hbare, hfocused, hs]
  rw [judge, admission_of_admits hd hl ha]
  simp only [hsnapshot]

theorem judge_of_not_admits {settings : Settings} {editor : Editor} {name : String} {d : Document}
    {l : Language} (hd : editor.get? name = some d) (hl : d.languageId = l.id)
    (ha : settings.admits l = false) (change : Change) :
    ∃ reason, judge settings editor name change = .skipped reason := by
  obtain ⟨reason, hr⟩ := admission_of_not_admits hd hl ha
  exact ⟨reason, by rw [judge, hr]⟩

/-! ### Handling an event -/

/-- An event with a change loads the settings, and is judged unless it is debounced. -/
theorem handle_eq {event : Event} {change : Change} (h : event.firstChange? = some change)
    (d : Dispatcher) (now : Nat) :
    ∃ debouncer, (d.handle now event).2 = ⟨d.editor, d.cache.get.2, debouncer⟩ ∧
      ((d.handle now event).1 = .skipped .debounced ∧
          d.debouncer.accept? now d.cache.get.1.debounceDelay = none ∨
        (d.handle now event).1 = judge d.cache.get.1 d.editor event.document change) := by
  rw [handle, h, judge]
  dsimp only
  cases admission d.cache.get.1 d.editor event.document with
  | error reason => exact ⟨_, rfl, .inr rfl⟩
  | ok admitted =>
    obtain ⟨document, language⟩ := admitted
    dsimp only
    cases d.debouncer.accept? now d.cache.get.1.debounceDelay with
    | none => exact ⟨_, rfl, .inl ⟨rfl, rfl⟩⟩
    | some debouncer =>
      dsimp only
      cases snapshotOf d.cache.get.1 d.editor event.document document change with
      | error reason => exact ⟨_, rfl, .inr rfl⟩
      | ok snapshot => exact ⟨_, rfl, .inr rfl⟩

theorem handle_of_no_change {event : Event} (h : event.firstChange? = none) (d : Dispatcher)
    (now : Nat) : d.handle now event = (.skipped .noChanges, d) := by
  rw [handle, h]

/-- Handling an event does not touch the editor. -/
theorem handle_editor (d : Dispatcher) (now : Nat) (event : Event) :
    (d.handle now event).2.editor = d.editor := by
  cases h : event.firstChange? with
  | none => rw [handle_of_no_change h]
  | some change =>
    obtain ⟨debouncer, hd, -⟩ := handle_eq h d now
    rw [hd]

theorem handle_cache {event : Event} {change : Change} (h : event.firstChange? = some change)
    (d : Dispatcher) (now : Nat) : (d.handle now event).2.cache = d.cache.get.2 := by
  obtain ⟨debouncer, hd, -⟩ := handle_eq h d now
  rw [hd]

/-- An event with a change is debounced or judged. -/
theorem handle_outcome {event : Event} {change : Change} (h : event.firstChange? = some change)
    (d : Dispatcher) (now : Nat) :
    (d.handle now event).1 = .skipped .debounced ∨
      (d.handle now event).1 = judge d.cache.get.1 d.editor event.document change := by
  obtain ⟨debouncer, -, ⟨hs, -⟩ | hj⟩ := handle_eq h d now
  · exact .inl hs
  · exact .inr hj

/-- Without a delay, every event with a change is judged. -/
theorem handle_outcome_of_no_delay {event : Event} {change : Change}
    (h : event.firstChange? = some change) (d : Dispatcher) (now : Nat)
    (hdelay : d.cache.get.1.debounceDelay = 0) :
    (d.handle now event).1 = judge d.cache.get.1 d.editor event.document change := by
  obtain ⟨debouncer, -, ⟨-, hnone⟩ | hj⟩ := handle_eq h d now
  · -- no trigger comes less than no time after the last
    have haccept : d.debouncer.accept? now 0 = some ⟨some now⟩ := by
      rw [Debouncer.accept?, Debouncer.isTooEarly]
      cases d.debouncer.last <;> rfl
    rw [hdelay, haccept] at hnone
    cases hnone
  · exact hj

/-- Only an event with a change is decided. -/
theorem exists_change_of_decided {d : Dispatcher} {now : Nat} {event : Event} {v : Verdict}
    (hv : (d.handle now event).1 = .decided v) :
    ∃ change, event.firstChange? = some change := by
  cases h : event.firstChange? with
  | none =>
    rw [handle_of_no_change h] at hv
    cases hv
  | some change => exact ⟨change, rfl⟩

theorem handle_eq_decided {d : Dispatcher} {now : Nat} {event : Event} {change : Change}
    {v : Verdict} (h : event.firstChange? = some change)
    (hv : (d.handle now event).1 = .decided v) :
    judge d.cache.get.1 d.editor event.document change = .decided v := by
  rcases handle_outcome h d now with hs | hj
  · rw [hs] at hv
    cases hv
  · rw [← hj, hv]

/-! ### Editing -/

/-- The terminator that a verdict asks for. -/
def terminatorEdit (document : String) (v : Verdict) : Edit :=
  ⟨document, v.snapshot.endPosition, [v.language.terminator], .withPrevious⟩

theorem handleAndEdit_outcome (d : Dispatcher) (now : Nat) (event : Event) :
    (d.handleAndEdit now event).1.1 = (d.handle now event).1 := by
  rw [handleAndEdit]
  split
  · next reason d' h => rw [h]
  · next v d' h => rw [h]

/-- An edit changes nothing but the editor. -/
theorem handleAndEdit_dispatcher (d : Dispatcher) (now : Nat) (event : Event) :
    ∃ e, (d.handleAndEdit now event).2 = { (d.handle now event).2 with editor := e } := by
  rw [handleAndEdit]
  split
  · next reason d' h => exact ⟨d'.editor, by rw [h]⟩
  · next v d' h => exact ⟨_, by rw [h]⟩

theorem handleAndEdit_cache (d : Dispatcher) (now : Nat) (event : Event) :
    (d.handleAndEdit now event).2.cache = (d.handle now event).2.cache := by
  obtain ⟨e, he⟩ := handleAndEdit_dispatcher d now event
  rw [he]

theorem handleAndEdit_debouncer (d : Dispatcher) (now : Nat) (event : Event) :
    (d.handleAndEdit now event).2.debouncer = (d.handle now event).2.debouncer := by
  obtain ⟨e, he⟩ := handleAndEdit_dispatcher d now event
  rw [he]

/-- Unless a terminator is decided, nothing is edited. -/
theorem handleAndEdit_of_suppress {d : Dispatcher} {now : Nat} {event : Event}
    (h : ∀ v, (d.handle now event).1 = .decided v → v.classification.decision = .suppress) :
    d.handleAndEdit now event =
      (((d.handle now event).1, .notNeeded), (d.handle now event).2) := by
  rw [handleAndEdit]
  split
  · next reason d' hd => rw [hd]
  · next v d' hd =>
    rw [hd] at h ⊢
    simp only [h v rfl, applyTerminator]

/-- What a decision comes to is up to the editor. -/
theorem handleAndEdit_of_decided {d : Dispatcher} {now : Nat} {event : Event} {v : Verdict}
    (hv : (d.handle now event).1 = .decided v) :
    d.handleAndEdit now event =
      let (status, editor) := applyTerminator d.editor event.document v.language.terminator
        v.classification.decision v.snapshot.endPosition
      ((.decided v, status), { (d.handle now event).2 with editor := editor }) := by
  have heditor := handle_editor d now event
  rw [handleAndEdit]
  split
  · next reason d' hd =>
    rw [hd] at hv
    cases hv
  · next v' d' hd =>
    rw [hd] at hv heditor ⊢
    obtain rfl : v' = v := Outcome.decided.inj hv
    rw [← heditor]

/-- A terminator that is decided is inserted, if the editor takes it. -/
theorem handleAndEdit_of_insert {d : Dispatcher} {now : Nat} {event : Event} {v : Verdict}
    {e : Editor} (hv : (d.handle now event).1 = .decided v)
    (hdecision : v.classification.decision = .insert)
    (he : d.editor.insert (terminatorEdit event.document v) = .ok e) :
    d.handleAndEdit now event =
      ((.decided v, .applied), { (d.handle now event).2 with editor := e }) := by
  rw [terminatorEdit] at he
  rw [handleAndEdit_of_decided hv, hdecision, applyTerminator, he]

/-- A terminator that is decided is given up, if the editor refuses it. -/
theorem handleAndEdit_of_refused {d : Dispatcher} {now : Nat} {event : Event} {v : Verdict}
    {error : EditError} (hv : (d.handle now event).1 = .decided v)
    (hdecision : v.classification.decision = .insert)
    (he : d.editor.insert (terminatorEdit event.document v) = .error error) :
    d.handleAndEdit now event =
      ((.decided v, .rejected), { (d.handle now event).2 with editor := d.editor }) := by
  rw [terminatorEdit] at he
  rw [handleAndEdit_of_decided hv, hdecision, applyTerminator, he]

/-- The editor stays as it is, or a terminator was decided and is inserted. -/
theorem handleAndEdit_cases (d : Dispatcher) (now : Nat) (event : Event) :
    ((d.handleAndEdit now event).1.2 ≠ .applied ∧
      (d.handleAndEdit now event).2.editor = d.editor) ∨
    ∃ v, (d.handle now event).1 = .decided v ∧ v.classification.decision = .insert ∧
      (d.handleAndEdit now event).1.2 = .applied ∧
      d.editor.insert (terminatorEdit event.document v) =
        .ok (d.handleAndEdit now event).2.editor := by
  cases hdecided : (d.handle now event).1.decision? with
  | none =>
    rw [handleAndEdit_of_suppress fun v hv => by rw [hv] at hdecided; cases hdecided]
    exact .inl ⟨nofun, handle_editor d now event⟩
  | some decision =>
    obtain ⟨v, hv, hdecision⟩ := Outcome.decision?_eq_some hdecided
    cases decision with
    | suppress =>
      rw [handleAndEdit_of_suppress fun v' hv' => by
        rwa [← Outcome.decided.inj (hv.symm.trans hv')]]
      exact .inl ⟨nofun, handle_editor d now event⟩
    | insert =>
      cases hinsert : d.editor.insert (terminatorEdit event.document v) with
      | error error =>
        -- the editor refuses the terminator and stays as it is
        rw [handleAndEdit_of_refused hv hdecision hinsert]
        exact .inl ⟨nofun, rfl⟩
      | ok e =>
        rw [handleAndEdit_of_insert hv hdecision hinsert]
        exact .inr ⟨v, hv, hdecision, rfl, hinsert⟩

end Dispatcher

end Semicolon
