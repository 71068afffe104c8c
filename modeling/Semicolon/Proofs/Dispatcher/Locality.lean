import Semicolon.Proofs.Dispatcher.Debouncing

/-!
# Dispatcher — what stands below a line

**Main result** (`decision_reads_through_line`).  What comes of an event depends on the settings in
effect, the debouncer, the time, the focus, the language of the event's document and the text of
this document up to the end of the event's line.  What stands below that line and in other documents
cannot be told from the outcome.

The texts of two documents that are the same through a line (`SameThrough`) have this line at the
same place.  So the line, the byte offsets of its places and the texts in front of these are the
same in both (`snapshotAt?_congr`, `verdictOn_congr`).
-/

namespace Semicolon
open Text

/-! ### Texts that are the same through a line -/

/-- The texts are the same up to the end of the line with a number.  There, either of them ends or
goes on with a line feed. -/
def Text.SameThrough (line : Nat) (t t' : Text) : Prop :=
  ∃ shared rest rest', t = shared ++ rest ∧ t' = shared ++ rest' ∧ shared.count '\n' = line ∧
    (rest = [] ∨ ∃ r, rest = '\n' :: r) ∧ (rest' = [] ∨ ∃ r, rest' = '\n' :: r)

/-- The line stands behind the same lines in both texts. -/
theorem Text.SameThrough.exists_stemAt {line : Nat} {t t' : Text} (h : SameThrough line t t') :
    ∃ before stem returns rest rest', line = before.length ∧ StemAt t before stem returns rest ∧
      StemAt t' before stem returns rest' := by
  obtain ⟨shared, rest, rest', rfl, rfl, rfl, hrest, hrest'⟩ := h
  obtain ⟨before, piece, hpieces⟩ := exists_last_piece shared
  obtain ⟨rfl, hbefore, hpiece⟩ := eq_terminated_append hpieces
  obtain ⟨stem, returns, rfl, hstem, hreturns⟩ := exists_stem piece
  refine ⟨before, stem, returns, rest, rest', ?_,
    ⟨⟨List.append_assoc .., hbefore, hpiece, hrest⟩, hstem, hreturns⟩,
    ⟨⟨List.append_assoc .., hbefore, hpiece, hrest'⟩, hstem, hreturns⟩⟩
  rw [List.count_append, count_terminated hbefore, List.count_eq_zero.mpr hpiece, Nat.add_zero]

/-! ### One line in two documents -/

section

variable {settings : Settings} {d d' : Document} {before : List Text}
  {stem returns rest rest' : Text}

theorem snapshotAt?_congr (hl : d.languageId = d'.languageId)
    (h : StemAt d.text before stem returns rest) (h' : StemAt d'.text before stem returns rest') :
    snapshotAt? settings d before.length = snapshotAt? settings d' before.length := by
  rw [snapshotAt?, snapshotAt?, Document.line?_of_stemAt h, Document.line?_of_stemAt h', hl]
  simp only [Document.offsetAt_of_stemAt h, Document.offsetAt_of_stemAt h']

/-- Both texts are the same in front of every place of the line. -/
theorem verdictOn_congr (h : StemAt d.text before stem returns rest)
    (h' : StemAt d'.text before stem returns rest') (language : Language) (column : Nat)
    (snapshot : Snapshot) :
    verdictOn settings d language ⟨before.length, column⟩ snapshot =
      verdictOn settings d' language ⟨before.length, column⟩ snapshot := by
  have hfront : d.text.takeBytes (d.offsetAt ⟨before.length, column⟩) =
      d'.text.takeBytes (d'.offsetAt ⟨before.length, column⟩) := by
    rw [(Document.cuts_of_stemAt h column).takeBytes_eq,
      (Document.cuts_of_stemAt h' column).takeBytes_eq]
  have hstring : Literal.isInside d.text (d.offsetAt ⟨before.length, column⟩) =
      Literal.isInside d'.text (d'.offsetAt ⟨before.length, column⟩) := by
    rw [Literal.isInside, Literal.isInside, hfront]
  have hcomment : Comment.isInside d.text (d.offsetAt ⟨before.length, column⟩) =
      Comment.isInside d'.text (d'.offsetAt ⟨before.length, column⟩) := by
    rw [Comment.isInside, Comment.isInside, hfront]
  rw [verdictOn, verdictOn, hstring, hcomment]

end

/-! ### Two dispatchers -/

/-- Documents of one language are admitted alike. -/
theorem admission_of_language (settings : Settings) {e e' : Editor} {name : String}
    {d d' : Document} (hd : e.get? name = some d) (hd' : e'.get? name = some d')
    (hl : d.languageId = d'.languageId) :
    (∃ reason, admission settings e name = .error reason ∧
      admission settings e' name = .error reason) ∨
    ∃ l, admission settings e name = .ok (d, l) ∧ admission settings e' name = .ok (d', l) := by
  simp only [admission, hd, hd', hl]
  split
  · exact .inl ⟨_, rfl, rfl⟩
  split
  · exact .inl ⟨_, rfl, rfl⟩
  split
  · exact .inl ⟨_, rfl, rfl⟩
  split
  · exact .inl ⟨_, rfl, rfl⟩
  · exact .inr ⟨_, rfl, rfl⟩

namespace Dispatcher

variable {e e' : Editor} {name : String} {d d' : Document} {change : Change}

theorem judge_congr (settings : Settings) (hfocused : e.focused = e'.focused)
    (hd : e.get? name = some d) (hd' : e'.get? name = some d')
    (hl : d.languageId = d'.languageId)
    (hsame : SameThrough change.range.start.line d.text d'.text) :
    judge settings e name change = judge settings e' name change := by
  obtain ⟨before, stem, returns, rest, rest', hline, h, h'⟩ := hsame.exists_stemAt
  have hstart : change.range.start = ⟨before.length, change.range.start.column⟩ := by rw [← hline]
  have hsnapshot : snapshotOf settings e name d change = snapshotOf settings e' name d' change := by
    rw [snapshotOf, snapshotOf, hfocused, hline, snapshotAt?_congr hl h h']
  rw [judge, judge]
  rcases admission_of_language settings hd hd' hl with
    ⟨reason, ha, ha'⟩ | ⟨language, ha, ha'⟩
  · rw [ha, ha']
  · rw [ha, ha', hstart]
    dsimp only
    rw [hsnapshot]
    cases snapshotOf settings e' name d' change with
    | error reason => rfl
    | ok snapshot => simp only [verdictOn_congr h h']

end Dispatcher

/-- What comes of an event does not depend on what stands below its line, nor on other
documents. -/
theorem decision_reads_through_line {D D' : Dispatcher} {event : Event} {change : Change}
    {d d' : Document} (hchange : event.firstChange? = some change)
    (hsettings : D.cache.get.1 = D'.cache.get.1) (hdebouncer : D.debouncer = D'.debouncer)
    (hfocused : D.editor.focused = D'.editor.focused)
    (hd : D.editor.get? event.document = some d) (hd' : D'.editor.get? event.document = some d')
    (hl : d.languageId = d'.languageId)
    (hsame : SameThrough change.range.start.line d.text d'.text) (now : Nat) :
    (D.handle now event).1 = (D'.handle now event).1 := by
  have hreaches : D.Reaches event ↔ D'.Reaches event := by
    rw [Dispatcher.Reaches, Dispatcher.Reaches, hsettings]
    rcases admission_of_language D'.cache.get.1 hd hd' hl with
      ⟨reason, ha, ha'⟩ | ⟨language, ha, ha'⟩ <;> simp [ha, ha']
  have hdebounced : (D.handle now event).1 = .skipped .debounced ↔
      (D'.handle now event).1 = .skipped .debounced := by
    rw [Dispatcher.debounced_iff, Dispatcher.debounced_iff, hreaches, hdebouncer,
      Dispatcher.delay, Dispatcher.delay, hsettings]
  have hjudge := Dispatcher.judge_congr D'.cache.get.1 hfocused hd hd' hl hsame
  rcases Dispatcher.handle_outcome hchange D now with h | h
  · rw [h, hdebounced.mp h]
  rcases Dispatcher.handle_outcome hchange D' now with h' | h'
  · rw [h', hdebounced.mpr h']
  · rw [h, h', hsettings, hjudge]

/-- A dispatcher over one document. -/
def Dispatcher.ofJava (text : Text) : Dispatcher :=
  start (Editor.empty.openDocument "Main" ⟨"java", text⟩) (.fixed .default)

/-- The same line, at the end of a text and above a string that is open.  In front of the second
document there is another, and its settings are loaded. -/
theorem decision_reads_through_line_of_open_string :
    let ends := Dispatcher.ofJava "s = 1\r".toList
    let goesOn := Dispatcher.ofJava "s = 1\r\n\"".toList
    let later : Dispatcher :=
      { goesOn with
        editor := { goesOn.editor with
          documents := ("Other", ⟨"cpp", "//".toList⟩) :: goesOn.editor.documents }
        cache := goesOn.cache.get.2 }
    let event := Event.typed "Main" ⟨0, 99⟩ ['\n']
    (ends.handle 7 event).1 = (later.handle 7 event).1 ∧
      (ends.handle 7 event).1.decision? = some .insert := by
  intro ends goesOn later event
  have hchange : event.firstChange? = some (.insertion ⟨0, 99⟩ ['\n']) := rfl
  have hsettings : ends.cache.get.1 = later.cache.get.1 := by decide
  have hsame : SameThrough 0 "s = 1\r".toList "s = 1\r\n\"".toList :=
    ⟨"s = 1\r".toList, [], "\n\"".toList, rfl, rfl, rfl, .inl rfl, .inr ⟨_, rfl⟩⟩
  have hsameOutcome : (ends.handle 7 event).1 = (later.handle 7 event).1 :=
    decision_reads_through_line hchange hsettings rfl rfl rfl rfl rfl hsame 7
  exact ⟨hsameOutcome, by decide⟩

end Semicolon
