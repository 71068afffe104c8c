import Semicolon.Proofs.Dispatcher.Outcomes
import Semicolon.Proofs.Editor.Retracing
import Semicolon.Proofs.Session.Runs

/-!
# Session — undo retraces a run

**Main result** (`undo_retraces_run`).  A session begins without a history, with documents in which
carriage returns belong to line breaks.  Whatever is typed, inserted, decided and undone in it
later, undoing everything gives back the documents of the beginning, and undoing one step those that
stood when the first edit of that step was made.

Every action does one of four things to the documents and the history (`perform_evolves`), so the
documents stay the ones that the history makes (`makes_run`).  The steps below the newest one stay
as they are while it stands, so the state in which it was begun has just these steps as its history
(`exists_beginsNewestStep`), and with the same history the documents are the same.
-/

namespace Semicolon
open Text

/-- The action opens no document, and carriage returns belong to line breaks in what it writes. -/
def Action.WritesPaired : Action → Prop
  | .openDocument _ _         => False
  | .type _ _ text _          => ReturnsPaired text
  | .insert edit              => ReturnsPaired edit.text
  | .terminate _ terminator _ _ => ReturnsPaired [terminator]
  | _                         => True

namespace Session

variable {s : Session} {a : Action} {actions : List Action}

/-! ### One action -/

/-- An event that is handed over changes nothing, or a terminator is inserted. -/
theorem deliver_editor (s : Session) (event : Event) (delivery : Delivery) :
    (s.deliver event delivery).2.editor = s.editor ∨
      ∃ v, s.editor.insert (Dispatcher.terminatorEdit event.document v) =
        .ok (s.deliver event delivery).2.editor := by
  cases delivery with
  | keep => exact .inl rfl
  | decide => exact .inl (Dispatcher.handle_editor s.dispatcher s.now event)
  | edit =>
    rcases Dispatcher.handleAndEdit_cases s.dispatcher s.now event with
      ⟨-, hkept⟩ | ⟨v, -, -, -, hinsert⟩
    · exact .inl hkept
    · exact .inr ⟨v, hinsert⟩

theorem type_evolves (s : Session) (name : String) (p : Position) {text : Text}
    (htext : ReturnsPaired text) (delivery : Delivery) :
    s.editor.Evolves (s.type name p text delivery).2.editor := by
  cases htype : s.editor.type name p text with
  | error error =>
    rw [type, htype]
    exact .kept rfl rfl
  | ok typed =>
    obtain ⟨event, e⟩ := typed
    have happly := Editor.apply_of_type htype
    rw [type, htype]
    dsimp only
    rcases deliver_editor (s.withEditor e) event delivery with hkept | ⟨v, hinsert⟩
    · rw [hkept]
      exact .edited _ htext happly
    · exact .typed name p text e _ htext happly (by decide : ReturnsPaired [';']) rfl
        (Editor.apply_of_insert hinsert).2

/-- What an action does to the documents and the history. -/
theorem perform_evolves (ha : a.WritesPaired) (s : Session) :
    s.editor.Evolves (s.perform a).2.editor := by
  cases a with
  | openDocument name d => exact ha.elim
  | focus name =>
    rw [perform, withEditor]
    dsimp only [editor]
    rw [Editor.focus]
    split
    · exact .kept rfl rfl
    · exact .kept rfl rfl
  | type name p text delivery => exact type_evolves s name p ha delivery
  | enter name line delivery => exact type_evolves s name _ (by decide) delivery
  | deliver event delivery =>
    rcases deliver_editor s event delivery with hkept | ⟨v, hinsert⟩
    · rw [perform, hkept]
      exact .kept rfl rfl
    · exact .edited _ (by decide : ReturnsPaired [';']) (Editor.apply_of_insert hinsert).2
  | insert edit =>
    cases hinsert : s.editor.insert edit with
    | error error =>
      rw [perform, hinsert]
      exact .kept rfl rfl
    | ok e =>
      rw [perform, hinsert]
      exact .edited edit ha (Editor.apply_of_insert hinsert).2
  | terminate name terminator decision lineEnd =>
    rw [perform]
    cases decision with
    | suppress => exact .kept rfl rfl
    | insert =>
      cases hinsert : s.editor.insert ⟨name, lineEnd, [terminator], .withPrevious⟩ with
      | error error =>
        rw [Dispatcher.applyTerminator, hinsert]
        exact .kept rfl rfl
      | ok e =>
        rw [Dispatcher.applyTerminator, hinsert]
        exact .edited ⟨name, lineEnd, [terminator], .withPrevious⟩ ha
          (Editor.apply_of_insert hinsert).2
  | undo =>
    cases hundo : s.editor.undo? with
    | none =>
      rw [perform, hundo]
      exact .kept rfl rfl
    | some e =>
      rw [perform_undo hundo]
      exact .undone hundo
  | advance | setSource | settingsChanged | setReadOnly => exact .kept rfl rfl

/-! ### Runs -/

/-- The documents stay those that the history makes. -/
theorem makes_run {start : Documents} (hstart : start.Paired)
    (hactions : ∀ a ∈ actions, a.WritesPaired)
    (h : History.Makes start s.editor.history s.editor.documents) :
    History.Makes start (s.run actions).editor.history (s.run actions).editor.documents := by
  induction actions generalizing s with
  | nil => exact h
  | cons a actions ih =>
    rw [List.forall_mem_cons] at hactions
    exact ih hactions.2 ((perform_evolves hactions.1 s).makes hstart h)

/-- Undoing as many steps as there are undoes everything. -/
theorem undo_all {start : Documents} (hstart : start.Paired) {n : Nat}
    (hn : s.editor.history.length = n)
    (h : History.Makes start s.editor.history s.editor.documents) :
    s.answers (.replicate n .undo) = .replicate n (.undone true) ∧
      ((s.run (.replicate n .undo)).perform .undo).1 = .undone false ∧
      (s.run (.replicate n .undo)).editor.documents = start := by
  induction n generalizing s with
  | zero =>
    have hnil := List.eq_nil_of_length_eq_zero hn
    rw [hnil] at h
    refine ⟨rfl, ?_, h.unique .nothing⟩
    rw [List.replicate_zero, run, perform_undo_nil hnil]
  | succ n ih =>
    obtain ⟨step, steps, hhistory⟩ := List.exists_cons_of_length_eq_add_one hn
    have hperform := perform_undo (Editor.undo?_of_cons hhistory)
    rw [hhistory] at h hn
    obtain ⟨hanswers, hend, hdocuments⟩ :=
      ih (s := (s.perform .undo).2) (by rw [hperform]; exact Nat.succ.inj hn)
        (by rw [hperform]; exact h.undo hstart)
    rw [List.replicate_succ, List.replicate_succ, answers, run, hanswers]
    refine ⟨?_, hend, hdocuments⟩
    rw [hperform]

/-- For every step there is a state with just the steps below it as its history, and ever since a
step has stood on them. -/
theorem exists_beginning (hempty : s.editor.history = []) (hactions : ∀ a ∈ actions, a.WritesPaired)
    {younger steps : History} {step : List Edit}
    (h : (s.run actions).editor.history = younger ++ step :: steps) :
    ∃ earlier a later, actions = earlier ++ a :: later ∧ (s.run earlier).editor.history = steps ∧
      ∀ l, l <+: later → ∃ younger step,
        (s.run (earlier ++ a :: l)).editor.history = younger ++ step :: steps := by
  induction actions using List.reverseRecOn generalizing younger step with
  | nil =>
    rw [run, hempty] at h
    simp at h
  | append_singleton actions a ih =>
    rw [List.forall_mem_append, List.forall_mem_singleton] at hactions
    have hlast : s.run (actions ++ [a]) = ((s.run actions).perform a).2 := by
      rw [run_append]
      rfl
    have htail := (perform_evolves hactions.2 (s.run actions)).tail_suffix
    rw [← hlast, h] at htail
    have hsuffix : steps <:+ (s.run actions).editor.history := by
      refine List.IsSuffix.trans ?_ htail
      cases younger with
      | nil => exact List.suffix_rfl
      | cons y younger => exact ⟨younger ++ [step], by simp⟩
    obtain ⟨above, habove⟩ := hsuffix
    rcases List.eq_nil_or_concat above with rfl | ⟨above, step', rfl⟩
    · -- the last action begins the step
      refine ⟨actions, a, [], rfl, habove.symm, fun l hl => ?_⟩
      rw [List.prefix_nil.mp hl]
      exact ⟨younger, step, h⟩
    · have habove' : (s.run actions).editor.history = above ++ step' :: steps := by
        rw [← habove, List.concat_eq_append, List.append_assoc]
        rfl
      obtain ⟨earlier, b, later, rfl, hearlier, hstands⟩ := ih hactions.1 habove'
      refine ⟨earlier, b, later ++ [a], by simp, hearlier, fun l hl => ?_⟩
      rcases List.prefix_concat_iff.mp hl with rfl | hl
      · exact ⟨younger, step, by rw [← h]; simp⟩
      · exact hstands l hl

/-! ### Undoing a run -/

/-- After `earlier`, the action `a` begins a step, which is never undone in `later` and is the
newest one at the end. -/
structure BeginsNewestStep (s : Session) (earlier : List Action) (a : Action)
    (later : List Action) : Prop where
  stands : ∀ l, l <+: later → ∃ younger step,
    (s.run (earlier ++ a :: l)).editor.history = younger ++ step :: (s.run earlier).editor.history
  newest : ∃ step,
    (s.run (earlier ++ a :: later)).editor.history = step :: (s.run earlier).editor.history

/-- The newest step was begun by an action before which the steps below it were the history. -/
theorem exists_beginsNewestStep (hempty : s.editor.history = [])
    (hactions : ∀ a ∈ actions, a.WritesPaired) {step : List Edit} {steps : History}
    (hhistory : (s.run actions).editor.history = step :: steps) :
    ∃ earlier a later, actions = earlier ++ a :: later ∧ s.BeginsNewestStep earlier a later ∧
      (s.run earlier).editor.history = steps := by
  obtain ⟨earlier, a, later, rfl, rfl, hstands⟩ :=
    exists_beginning hempty hactions (hhistory.trans (List.nil_append _).symm)
  exact ⟨earlier, a, later, rfl, ⟨hstands, step, hhistory⟩, rfl⟩

/-- Undoing everything after a run gives back the documents of the beginning, and undoing one step
those that stood before the action that began the step. -/
theorem undo_retraces_run (s : Session) {actions : List Action} (hempty : s.editor.history = [])
    (hpaired : s.editor.documents.Paired) (hactions : ∀ a ∈ actions, a.WritesPaired) :
    (∃ n, (s.run actions).answers (.replicate n .undo) = .replicate n (.undone true) ∧
      (((s.run actions).run (.replicate n .undo)).perform .undo).1 = .undone false ∧
      ((s.run actions).run (.replicate n .undo)).editor.documents = s.editor.documents) ∧
    ∀ undone, (s.run actions).perform .undo = (.undone true, undone) →
      ∃ earlier a later, actions = earlier ++ a :: later ∧ s.BeginsNewestStep earlier a later ∧
        undone.editor.documents = (s.run earlier).editor.documents := by
  have hstart : History.Makes s.editor.documents s.editor.history s.editor.documents := by
    rw [hempty]
    exact .nothing
  have hmakes := makes_run hpaired hactions hstart
  refine ⟨⟨_, undo_all hpaired rfl hmakes⟩, fun undone hperform => ?_⟩
  cases hhistory : (s.run actions).editor.history with
  | nil =>
    rw [perform_undo_nil hhistory] at hperform
    cases hperform
  | cons step steps =>
    obtain ⟨earlier, a, later, rfl, hbegins, hearlier⟩ :=
      exists_beginsNewestStep hempty hactions hhistory
    refine ⟨earlier, a, later, rfl, hbegins, ?_⟩
    -- the two states have the same history, and so the same documents
    have hbefore := makes_run hpaired (fun b hb => hactions b (List.mem_append_left _ hb)) hstart
    rw [perform_undo (Editor.undo?_of_cons hhistory)] at hperform
    cases hperform
    rw [hearlier] at hbefore
    rw [hhistory] at hmakes
    exact (hmakes.undo hpaired).unique hbefore

/-- Two open documents, one of them with line breaks of two characters. -/
def twoDocuments : Session :=
  ((ofDocument "Main" ⟨"java", "int x = 1\r\nfoo()".toList⟩).perform
    (.openDocument "Other" ⟨"java", "bar()".toList⟩)).2

/-- Edits of both documents: one step reaches into both, an edit is refused, and a step is
undone. -/
def editingBoth : List Action := [
  .type "Main" ⟨0, 9⟩ ['\r', '\n'] .keep,
  .insert ⟨"Main", ⟨0, 9⟩, [';'], .withPrevious⟩,
  .insert ⟨"Other", ⟨0, 0⟩, "// \n".toList, .withPrevious⟩,
  .focus "Main",
  .type "Main" ⟨7, 0⟩ ['a'] .keep,
  .type "Other" ⟨1, 3⟩ ['é'] .keep,
  .undo,
  .insert ⟨"Main", ⟨0, 0⟩, ['y'], .separate⟩]

/-- Two documents, one of them with two-character line breaks, are edited in turn; an edit is
refused and a step is undone on the way. -/
theorem undo_retraces_run_of_two_documents :
    (∃ n, (twoDocuments.run editingBoth).answers (.replicate n .undo) =
        .replicate n (.undone true) ∧
      (((twoDocuments.run editingBoth).run (.replicate n .undo)).perform .undo).1 =
        .undone false ∧
      ((twoDocuments.run editingBoth).run (.replicate n .undo)).editor.documents =
        twoDocuments.editor.documents) ∧
    (twoDocuments.run editingBoth).editor.get? "Main" =
      some ⟨"java", "yint x = 1;\r\n\r\nfoo()".toList⟩ ∧
    ∃ earlier a later, editingBoth = earlier ++ a :: later ∧
      twoDocuments.BeginsNewestStep earlier a later ∧
      ((twoDocuments.run editingBoth).perform .undo).2.editor.documents =
        (twoDocuments.run earlier).editor.documents := by
  have hpaired : twoDocuments.editor.documents.Paired := Documents.paired_of_forall (by decide)
  have hactions : ∀ a ∈ editingBoth, a.WritesPaired := by
    simp only [editingBoth, List.forall_mem_cons]
    exact ⟨(by decide : ReturnsPaired ['\r', '\n']), (by decide : ReturnsPaired [';']),
      (by decide : ReturnsPaired "// \n".toList), trivial, (by decide : ReturnsPaired ['a']),
      (by decide : ReturnsPaired ['é']), trivial, (by decide : ReturnsPaired ['y']),
      List.forall_mem_nil _⟩
  obtain ⟨hall, hone⟩ := undo_retraces_run twoDocuments rfl hpaired hactions
  exact ⟨hall, by decide, hone _ (Prod.ext (by decide) rfl)⟩

end Session

end Semicolon
