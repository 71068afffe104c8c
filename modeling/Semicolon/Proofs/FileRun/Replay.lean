import Semicolon.Proofs.FileRun.Running

/-!
# FileRun — what replay types

A replay holds the lines it has typed, each with the terminator it got, and nothing else: this is
`Running` for the text `terminated done`.

* `replayLine_eq` and `replayLines_eq`: a line, and all lines, are typed and get the terminators
  that `terminators` says.
* `replayLine_refused` and `replayLines_refused`: a line that ends in a carriage return is refused,
  for the place behind it is not one of its line.

**Main results.**  A replay is refused at the first line that ends in a carriage return, and on no
other text (`replay_refused_iff`).  What a replay has typed is typed again without a change
(`replay_idempotent`).
-/

namespace Semicolon.FileRun
open Text Dispatcher

section

variable {settings : Settings} {language : Language} {d : Dispatcher} {done : List Text}
  {content : Text}

/-! ### One line -/

/-- Typing a line puts it behind the others, empty or not. -/
theorem typeLine_eq (h : Running settings language replayed d (terminated done))
    (hdone : ∀ l ∈ done, '\n' ∉ l) (content : Text) :
    ∃ d', typeLine d done.length content = .ok d' ∧
      Running settings language replayed d' (terminated done ++ content) := by
  rw [typeLine]
  split
  · next hnone =>
    rw [List.isEmpty_iff.mp hnone, List.append_nil]
    exact ⟨d, rfl, h⟩
  · have hempty : '\n' ∉ ([] : Text) := List.not_mem_nil
    have hstem := stemAt_of_whole hdone hempty nofun (.inl rfl)
    rw [List.append_nil, List.append_nil] at hstem
    obtain ⟨e, -, htype, hrunning⟩ := h.type hstem (Nat.le_refl 0) (Nat.le_refl 0) content
    rw [List.append_nil, List.append_nil, List.append_nil] at hrunning
    exact ⟨_, by rw [htype]; rfl, hrunning⟩

/-- The line break behind a line brings the terminator that the line gets. -/
theorem handleAndEdit_line
    (h : Running settings language replayed d (terminated done ++ content ++ ['\n']))
    (hdone : ∀ l ∈ done, '\n' ∉ l) (hl : '\n' ∉ content) (hlast : content.getLast? ≠ some '\r') :
    ∃ handled d', d.handleAndEdit 0 (.typed replayed ⟨done.length, content.length⟩ ['\n']) =
        (handled, d') ∧
      (handled.2 = .applied ↔ terminates settings language (terminated done) content = true) ∧
      Running settings language replayed d' (terminated done ++
        (withTerminator (terminates settings language (terminated done) content) content ++
          ['\n'])) := by
  have hstem := stemAt_of_whole hdone hl hlast (.inr ⟨[], rfl⟩)
  have hchange : (Event.typed replayed ⟨done.length, content.length⟩ ['\n']).firstChange? =
      some (.insertion ⟨done.length, content.length⟩ ['\n']) := rfl
  have hhandled := h.handle hchange 0
  obtain ⟨hinsert, hquiet⟩ := h.handle_line hstem (Nat.le_refl _) 0
  cases hon : terminates settings language (terminated done) content with
  | true =>
    obtain ⟨v, hv, hdecision, -, hend⟩ := hinsert hon
    obtain ⟨e, he, hrunning⟩ := hhandled.insert hstem (Nat.le_refl _) (by simp) [';'] .withPrevious
    rw [handle_editor, ← hend] at he
    rw [withTerminator_true, List.append_assoc content]
    rw [List.append_assoc] at hrunning
    exact ⟨_, _, handleAndEdit_of_insert hv hdecision he, by simp, hrunning⟩
  | false =>
    rw [withTerminator_false, ← List.append_assoc]
    exact ⟨_, _, handleAndEdit_of_suppress (hquiet hon), by simp, hhandled⟩

/-- A line is typed and gets its terminator. -/
theorem replayLine_eq (h : Running settings language replayed d (terminated done))
    (hdone : ∀ l ∈ done, '\n' ∉ l) (hl : '\n' ∉ content) (hlast : content.getLast? ≠ some '\r') :
    ∃ handled d', replayLine d done.length content = .ok (handled, d') ∧
      (handled.2 = .applied ↔ terminates settings language (terminated done) content = true) ∧
      Running settings language replayed d' (terminated done ++
        (withTerminator (terminates settings language (terminated done) content) content ++
          ['\n'])) := by
  obtain ⟨d₁, hline, h₁⟩ := typeLine_eq h hdone content
  have hstem := stemAt_of_whole hdone hl hlast (.inl rfl)
  rw [List.append_nil] at hstem
  obtain ⟨e, -, htype, h₂⟩ := h₁.type hstem (Nat.le_refl _) (by simp) ['\n']
  rw [List.append_nil, List.append_nil] at h₂
  obtain ⟨handled, d', hedit, hstatus, h₃⟩ := handleAndEdit_line h₂ hdone hl hlast
  refine ⟨handled, d', ?_, hstatus, h₃⟩
  rw [replayLine, hline]
  dsimp only [bind, Except.bind]
  rw [htype]
  exact congrArg Except.ok hedit

/-- A line that ends in a carriage return is refused: the document does not count the carriage
return to the line, so the place behind the line is not one of it. -/
theorem replayLine_refused (h : Running settings language replayed d (terminated done))
    (hdone : ∀ l ∈ done, '\n' ∉ l) (hl : '\n' ∉ content) (hlast : content.getLast? = some '\r') :
    replayLine d done.length content = .error (.rejected
      (.columnPastEnd ⟨done.length, content.length⟩ (content.length - 1))) := by
  obtain ⟨d₁, hline, h₁⟩ := typeLine_eq h hdone content
  have hpiece : PieceAt (terminated done ++ content) done content [] :=
    ⟨by rw [List.append_nil], hdone, hl, .inl rfl⟩
  have hline? : Document.line? ⟨language.id, terminated done ++ content⟩ done.length =
      some content.dropLast := by
    rw [Document.line?, hpiece.getElem?, Option.map_some, dropReturn, if_pos hlast]
  have hlength : content.dropLast.length = content.length - 1 := List.length_dropLast
  have hcheck : Document.check? ⟨language.id, terminated done ++ content⟩
      ⟨done.length, content.length⟩ = some (.columnPastEnd
        ⟨done.length, content.length⟩ (content.length - 1)) := by
    have hpos : 0 < content.length := List.length_pos_of_mem (List.mem_of_getLast? hlast)
    have hshort : ¬ content.length ≤ content.dropLast.length := by omega
    rw [Document.check?, hline?, ← hlength]
    exact if_neg hshort
  rw [replayLine, hline]
  dsimp only [bind, Except.bind]
  rw [Editor.type_refused h₁.get?_eq hcheck]

/-! ### All lines -/

theorem inserted_cons (handled : Outcome × EditStatus) (r : FileRun) :
    FileRun.inserted { r with handled := handled :: r.handled } =
      r.inserted + if handled.2 = .applied then 1 else 0 := by
  rw [inserted, List.filter_cons]
  by_cases hstatus : handled.2 = .applied
  · simp [hstatus, inserted]
  · simp [hstatus, inserted]

/-- The lines that are typed stay whole. -/
theorem whole_concat (hdone : ∀ l ∈ done, '\n' ∉ l) (hl : '\n' ∉ content) (on : Bool) :
    ∀ l ∈ done ++ [withTerminator on content], '\n' ∉ l := by
  rw [List.forall_mem_append, List.forall_mem_singleton]
  exact ⟨hdone, notMem_withTerminator hl on⟩

theorem replayLines_cons {line : Nat} {handled : Outcome × EditStatus} {d' : Dispatcher}
    (hline : replayLine d line content = .ok (handled, d')) (contents : List Text) :
    replayLines d line (content :: contents) =
      (replayLines d' (line + 1) contents).map fun r =>
        { r with handled := handled :: r.handled } := by
  rw [replayLines, hline]
  rfl

/-- Lines are typed, and get the terminators that they get behind the lines in front. -/
theorem replayLines_eq {ls : List Text} {front : Text}
    (h : Running settings language replayed d (terminated done)) (hdone : ∀ l ∈ done, '\n' ∉ l)
    (hls : ∀ l ∈ ls, '\n' ∉ l) (hlast : ∀ l ∈ ls, l.getLast? ≠ some '\r')
    (hfront : Literal.SameQuotes front (terminated done)) :
    ∃ r, replayLines d done.length ls = .ok r ∧
      r.text replayed = terminated (done ++ withTerminators settings language front ls) ∧
      r.inserted = (terminators settings language front ls).count true := by
  induction ls generalizing d done front with
  | nil =>
    refine ⟨_, rfl, ?_, rfl⟩
    rw [FileRun.text, h.get?_eq]
    exact congrArg terminated (List.append_nil done).symm
  | cons l ls ih =>
    rw [List.forall_mem_cons] at hls hlast
    obtain ⟨handled, d', hline, hstatus, hrunning⟩ := replayLine_eq h hdone hls.1 hlast.1
    rw [← terminates_congr hfront] at hstatus hrunning
    -- `front` grows by the line, and the document by the line with its terminator
    have hfront' := sameQuotes_withTerminator hfront l (terminates settings language front l)
    rw [← terminated_concat] at hrunning hfront'
    obtain ⟨r, hr, htext, hinserted⟩ :=
      ih hrunning (whole_concat hdone hls.1 _) hls.2 hlast.2 hfront'
    rw [List.length_append, List.length_singleton] at hr
    refine ⟨{ r with handled := handled :: r.handled }, ?_, ?_, ?_⟩
    · rw [replayLines_cons hline, hr]
      rfl
    · rw [withTerminators_cons, List.append_cons]
      exact htext
    · rw [inserted_cons, hinserted, terminators, List.count_cons, beq_true]
      simp only [hstatus]

/-- A replay stops at the first line that ends in a carriage return. -/
theorem replayLines_refused {ls after : List Text} {l : Text}
    (h : Running settings language replayed d (terminated done)) (hdone : ∀ l ∈ done, '\n' ∉ l)
    (hls : ∀ l ∈ ls, '\n' ∉ l) (hlast : ∀ l ∈ ls, l.getLast? ≠ some '\r') (hl : '\n' ∉ l)
    (hreturn : l.getLast? = some '\r') :
    replayLines d done.length (ls ++ l :: after) = .error (.rejected
      (.columnPastEnd ⟨done.length + ls.length, l.length⟩ (l.length - 1))) := by
  induction ls generalizing d done with
  | nil =>
    rw [List.nil_append, replayLines, replayLine_refused h hdone hl hreturn]
    rfl
  | cons m ls ih =>
    rw [List.forall_mem_cons] at hls hlast
    obtain ⟨handled, d', hline, -, hrunning⟩ := replayLine_eq h hdone hls.1 hlast.1
    rw [← terminated_concat] at hrunning
    have hrest := ih hrunning (whole_concat hdone hls.1 _) hls.2 hlast.2
    rw [List.length_append, List.length_singleton] at hrest
    rw [List.cons_append, replayLines_cons hline, hrest, List.length_cons,
      Nat.add_comm ls.length, ← Nat.add_assoc]
    rfl

end

/-- The first of the lines that end in a carriage return. -/
theorem exists_first_return (ls : List Text) :
    (∀ l ∈ ls, l.getLast? ≠ some '\r') ∨ ∃ before l after, ls = before ++ l :: after ∧
      (∀ m ∈ before, m.getLast? ≠ some '\r') ∧ l.getLast? = some '\r' := by
  cases hfind : ls.find? (·.getLast? = some '\r') with
  | none => exact .inl (by simpa using hfind)
  | some l =>
    obtain ⟨hl, before, after, rfl, hbefore⟩ := List.find?_eq_some_iff_append.mp hfind
    exact .inr ⟨before, l, after, rfl, by simpa using hbefore, by simpa using hl⟩

/-! ### Files -/

/-- A text whose lines do not end in carriage returns is typed, and its lines get their
terminators. -/
theorem replay_eq (settings : Settings) (language : Language) {t : Text}
    (h : ∀ l ∈ t.fileLines, l.getLast? ≠ some '\r') :
    ∃ r, replay settings language t = .ok r ∧
      r.text replayed = terminated (withTerminators settings language [] t.fileLines) ∧
      r.inserted = (terminators settings language [] t.fileLines).count true := by
  have hstart : Running settings language replayed (start settings replayed language [])
      (terminated []) := running_start settings language replayed []
  exact replayLines_eq hstart (List.forall_mem_nil _) (fun _ => notMem_of_mem_fileLines) h (.refl _)

/-- A text is refused at its first line that ends in a carriage return. -/
theorem replay_refused (settings : Settings) (language : Language) {t l : Text}
    {before after : List Text} (hlines : t.fileLines = before ++ l :: after)
    (hbefore : ∀ m ∈ before, m.getLast? ≠ some '\r') (hl : l.getLast? = some '\r') :
    replay settings language t = .error (.rejected
      (.columnPastEnd ⟨before.length, l.length⟩ (l.length - 1))) := by
  have hstart : Running settings language replayed (start settings replayed language [])
      (terminated []) := running_start settings language replayed []
  have hwhole : ∀ m ∈ before ++ l :: after, '\n' ∉ m := by
    rw [← hlines]
    exact fun _ => notMem_of_mem_fileLines
  rw [List.forall_mem_append, List.forall_mem_cons] at hwhole
  rw [replay, hlines, ← Nat.zero_add before.length]
  exact replayLines_refused hstart (List.forall_mem_nil _) hwhole.1 hbefore hwhole.2.1 hl

/-- Only a text whose lines do not end in carriage returns is typed. -/
theorem replay_ok {settings : Settings} {language : Language} {t : Text} {r : FileRun}
    (h : replay settings language t = .ok r) : ∀ l ∈ t.fileLines, l.getLast? ≠ some '\r' := by
  rcases exists_first_return t.fileLines with hlast | ⟨before, l, after, hlines, hbefore, hl⟩
  · exact hlast
  · rw [replay_refused settings language hlines hbefore hl] at h
    cases h

/-- A replay is refused if and only if a line ends in a carriage return, and then at the first such
line: the column behind it is one past its end. -/
theorem replay_refused_iff (settings : Settings) (language : Language) (t : Text)
    (e : EditError) :
    replay settings language t = .error e ↔
      ∃ before l after, t.fileLines = before ++ l :: after ∧
        (∀ m ∈ before, m.getLast? ≠ some '\r') ∧ l.getLast? = some '\r' ∧
        e = .rejected (.columnPastEnd ⟨before.length, l.length⟩ (l.length - 1)) := by
  constructor
  · intro h
    rcases exists_first_return t.fileLines with hlast | ⟨before, l, after, hlines, hbefore, hl⟩
    · obtain ⟨r, hr, -⟩ := replay_eq settings language hlast
      rw [hr] at h
      cases h
    · rw [replay_refused settings language hlines hbefore hl] at h
      exact ⟨before, l, after, hlines, hbefore, hl, (Except.error.inj h).symm⟩
  · rintro ⟨before, l, after, hlines, hbefore, hl, rfl⟩
    exact replay_refused settings language hlines hbefore hl

/-- A comment in a last line without a line feed: its carriage return is typed, and the line break
behind it is refused. -/
theorem replay_refused_of_return :
    replay .allLanguages .java "// done\r".toList =
      .error (.rejected (.columnPastEnd ⟨0, 8⟩ 7)) := by
  have hlines : fileLines "// done\r".toList = [] ++ "// done\r".toList :: [] := by decide
  exact replay_refused .allLanguages .java hlines (List.forall_mem_nil _) (by decide)

/-- What a replay has typed is typed again without a change. -/
theorem replay_idempotent {settings : Settings} {language : Language} {t : Text} {r : FileRun}
    (h : replay settings language t = .ok r) :
    ∃ r', replay settings language (r.text replayed) = .ok r' ∧
      r'.text replayed = r.text replayed ∧ r'.inserted = 0 := by
  have hlast := replay_ok h
  obtain ⟨r₁, hr₁, htext, -⟩ := replay_eq settings language hlast
  obtain rfl : r = r₁ := Except.ok.inj (h.symm.trans hr₁)
  -- the lines of the result are the lines with their terminators
  have hwhole : ∀ l ∈ withTerminators settings language [] t.fileLines, '\n' ∉ l :=
    forall_mem_withTerminators
      (fun l hl on => notMem_withTerminator (notMem_of_mem_fileLines hl) on) []
  have hlast' : ∀ l ∈ withTerminators settings language [] t.fileLines, l.getLast? ≠ some '\r' :=
    forall_mem_withTerminators (fun l hl on => getLast?_withTerminator (hlast l hl) on) []
  have hlines : (r.text replayed).fileLines = withTerminators settings language [] t.fileLines := by
    rw [htext, fileLines_terminated_eq_self hwhole hlast']
  obtain ⟨r', hr', htext', hinserted⟩ := replay_eq settings language (hlines ▸ hlast')
  refine ⟨r', hr', ?_, ?_⟩
  · rw [htext', hlines, withTerminators_idempotent (.refl []), htext]
  · rw [hinserted, hlines, terminators_withTerminators (.refl []), List.count_replicate]
    rfl

/-- A file with a declaration and a comment is typed twice. -/
theorem replay_idempotent_of_java :
    ∃ r r', replay .default .java "int x = 1\n// done".toList = .ok r ∧
      replay .default .java (r.text replayed) = .ok r' ∧ r'.text replayed = r.text replayed ∧
      r.inserted = 1 ∧ r'.inserted = 0 := by
  have hlast : ∀ l ∈ fileLines "int x = 1\n// done".toList, l.getLast? ≠ some '\r' := by decide
  obtain ⟨r, hr, -, hinserted⟩ := replay_eq .default .java hlast
  obtain ⟨r', hr', htext, hinserted'⟩ := replay_idempotent hr
  refine ⟨r, r', hr, hr', htext, ?_, hinserted'⟩
  rw [hinserted]
  decide

end Semicolon.FileRun
