import Mathlib.Data.Finset.Card
import Semicolon.Proofs.FileRun.Running

/-!
# FileRun — what check decides

A check leaves the text as it is: the line break behind a line is undone before the next
(`checkLine_eq`).  So every line is decided behind the untouched text in front of it.

* `terminatesAt` and `verdictAt`: the decision and the verdict about the line with a number, as
  functions of the text.
* `LineChecked`: what comes of the line with a number.
* `checkLines_eq`, `check_eq` and `check_verdicts`: a check is never refused, it inserts where
  `terminatesAt` says, and its verdicts are those of `verdictAt`.
* `checkLines_append`: a check can be stopped behind any line and taken up there.

**Main result** (`check_decides_all_lines`).  A check brings one verdict about each line of the
file, in order, or none at all, and the document is untouched behind every line.
-/

namespace Semicolon.FileRun
open Text Dispatcher

/-! ### The lines of a check -/

/-- The line that an outcome puts a terminator on, if any. -/
def insertedLine? : Outcome → Option Nat
  | .skipped _ => none
  | .decided v => if v.classification.decision = .insert then some v.snapshot.line else none

/-- The numbers of the lines with a verdict to insert. -/
def insertLines (r : FileRun) : Finset Nat :=
  ((r.verdicts.filter (·.classification.decision = .insert)).map (·.snapshot.line)).toFinset

/-- A verdict to insert adds its line to the others. -/
theorem insertLines_cons (outcome : Outcome) (status : EditStatus) (r : FileRun) :
    FileRun.insertLines { r with handled := (outcome, status) :: r.handled } =
      match insertedLine? outcome with
      | none      => r.insertLines
      | some line => insert line r.insertLines := by
  cases outcome with
  | skipped reason => rfl
  | decided v =>
    have hverdicts : FileRun.verdicts { r with handled := (.decided v, status) :: r.handled } =
        v :: r.verdicts := rfl
    rw [insertLines, hverdicts, List.filter_cons, insertedLine?]
    by_cases hinsert : v.classification.decision = .insert
    · rw [if_pos (decide_eq_true hinsert), if_pos hinsert, List.map_cons, List.toFinset_cons]
      rfl
    · rw [if_neg (by simpa using hinsert), if_neg hinsert]
      rfl

/-- The line with a number gets a terminator behind the text in front of it. -/
def terminatesAt (settings : Settings) (language : Language) (t : Text) (i : Nat) : Bool :=
  match (pieces t)[i]? with
  | none       => false
  | some piece =>
    terminates settings language (terminated ((pieces t).take i)) (withoutReturns piece)

/-- The verdict about a line that is finished behind the lines `before`. -/
def lineVerdict (settings : Settings) (language : Language) (before : List Text) (line : Text) :
    Verdict :=
  ⟨language, classifyLine settings language (terminated before) line line,
    .of line (settings.uncomment line) before.length (byteSize (terminated before ++ line))⟩

/-- The verdict about the line with a number. -/
def verdictAt (settings : Settings) (language : Language) (t : Text) (i : Nat) : Option Verdict :=
  (pieces t)[i]?.map fun piece =>
    lineVerdict settings language ((pieces t).take i) (withoutReturns piece)

/-- The line that an outcome is a verdict about, if it is one. -/
def decidedLine? : Outcome → Option Nat
  | .skipped _ => none
  | .decided v => some v.snapshot.line

/-- What a check makes of the line with a number. -/
structure LineChecked (settings : Settings) (language : Language) (t : Text) (i : Nat)
    (outcome : Outcome) : Prop where
  decided : decidedLine? outcome = if settings.admits language then some i else none
  inserted : insertedLine? outcome =
    if terminatesAt settings language t i then some i else none
  verdict : ∀ v, outcome = .decided v → verdictAt settings language t i = some v

section

variable {settings : Settings} {language : Language} {d : Dispatcher} {t : Text}

/-! ### One line -/

/-- A line break is decided if the settings admit the language, and the verdict is about its
line. -/
theorem decidedLine?_handle {before : List Text} {stem returns rest : Text} {column : Nat}
    (h : Running settings language checked d t) (hs : StemAt t before stem returns rest)
    (now : Nat) :
    decidedLine? (d.handle now (.typed checked ⟨before.length, column⟩ ['\n'])).1 =
      if settings.admits language then some before.length else none := by
  cases ha : settings.admits language with
  | true =>
    rw [(h.handle_break hs now).1 ha]
    rfl
  | false =>
    obtain ⟨reason, hreason⟩ : ∃ reason,
        (d.handle now (.typed checked ⟨before.length, column⟩ ['\n'])).1 = .skipped reason :=
      (h.handle_break hs now).2 ha
    rw [hreason]
    rfl

/-- A line break behind a line puts a terminator on the line, if it gets one. -/
theorem insertedLine?_handle {before : List Text} {line rest : Text} {column : Nat}
    (h : Running settings language checked d t) (hs : StemAt t before line [] rest)
    (hc : line.length ≤ column) (now : Nat) :
    insertedLine? (d.handle now (.typed checked ⟨before.length, column⟩ ['\n'])).1 =
      if terminates settings language (terminated before) line then some before.length
      else none := by
  obtain ⟨hinsert, hquiet⟩ := h.handle_line hs hc now
  cases hon : terminates settings language (terminated before) line with
  | true =>
    obtain ⟨v, hv, hdecision, hnumber, -⟩ := hinsert hon
    rw [hv, insertedLine?, if_pos hdecision, hnumber]
    rfl
  | false =>
    cases hv : (d.handle now (.typed checked ⟨before.length, column⟩ ['\n'])).1 with
    -- a line break that is skipped puts nothing on the line
    | skipped reason => rfl
    | decided v =>
      rw [insertedLine?, hquiet hon v hv]
      rfl

/-- The verdict that a line break behind a line brings. -/
theorem verdict_of_handle {before : List Text} {line rest : Text} {column : Nat} {v : Verdict}
    (h : Running settings language checked d t) (hs : StemAt t before line [] rest)
    (hc : line.length ≤ column) (now : Nat)
    (hv : (d.handle now (.typed checked ⟨before.length, column⟩ ['\n'])).1 = .decided v) :
    v = lineVerdict settings language before line := by
  have hoffset : Document.offsetAt ⟨language.id, t⟩ ⟨before.length, line.length⟩ =
      byteSize (terminated before ++ line) :=
    (Document.cuts_behind_stem hs (Nat.le_refl _)).offset_eq
  have hverdict : breakVerdict settings language ⟨language.id, t⟩ before line [] column =
      lineVerdict settings language before line := by
    rw [breakVerdict, lineVerdict, List.dropLast_nil, List.append_nil, List.take_of_length_le hc,
      hoffset]
  cases ha : settings.admits language with
  | true =>
    rw [(h.handle_break hs now).1 ha] at hv
    rw [← Outcome.decided.inj hv, hverdict]
  | false =>
    obtain ⟨reason, hreason⟩ := (h.handle_break hs now).2 ha
    rw [hreason] at hv
    cases hv

/-- The verdict about a line is that about its stem. -/
theorem verdictAt_of_stemAt {before : List Text} {stem returns rest : Text}
    (hs : StemAt t before stem returns rest) :
    verdictAt settings language t before.length =
      some (lineVerdict settings language before stem) := by
  obtain ⟨ps, hps⟩ := hs.pieces_eq
  rw [verdictAt, hs.getElem?, hps, List.take_left, Option.map_some,
    withoutReturns_append hs.stem_last hs.returns_only]

/-- So is the decision. -/
theorem terminatesAt_of_stemAt {before : List Text} {stem returns rest : Text}
    (hs : StemAt t before stem returns rest) :
    terminatesAt settings language t before.length =
      terminates settings language (terminated before) stem := by
  obtain ⟨ps, hps⟩ := hs.pieces_eq
  rw [terminatesAt, hs.getElem?, hps, List.take_left]
  dsimp only
  rw [withoutReturns_append hs.stem_last hs.returns_only]

/-- The line is decided, and its line break is undone. -/
theorem checkLine_eq (h : Running settings language checked d t) {i : Nat}
    (hi : i < (pieces t).length) :
    ∃ outcome d', checkLine d i = .ok (outcome, d') ∧ d'.editor = d.editor ∧
      Running settings language checked d' t ∧ LineChecked settings language t i outcome := by
  obtain ⟨rest, hat⟩ := exists_pieceAt (List.getElem?_eq_getElem hi)
  obtain ⟨stem, returns, -, hs⟩ := hat.exists_stemAt
  generalize hbefore : (pieces t).take i = before at hs
  obtain rfl : before.length = i := by rw [← hbefore, List.length_take_of_le (Nat.le_of_lt hi)]
  let p : Position := ⟨before.length, (stem ++ returns.dropLast).length⟩
  have hlow : stem.length ≤ p.column := (List.sublist_append_left stem returns.dropLast).length_le
  obtain ⟨e, he, htype, htyped⟩ := h.type hs hlow (Nat.le_refl _) ['\n']
  let handled := Dispatcher.handle { d with editor := e } 0 (.typed checked p ['\n'])
  have hnext : Running settings language checked handled.2 _ := htyped.handle rfl 0
  -- the line break is the last edit, whatever was decided
  have hback : handled.2.editor.undo?.getD handled.2.editor = d.editor := by
    have heditor : handled.2.editor = e := handle_editor _ _ _
    rw [heditor, he, h.undo_break hs hlow]
    rfl
  have hwhole : '\n' ∉ stem := fun hmem => hs.piece_whole (List.mem_append_left _ hmem)
  have hline := stemAt_of_whole hs.before_whole hwhole hs.stem_last (.inr ⟨returns ++ rest, rfl⟩)
  refine ⟨handled.1, { handled.2 with editor := d.editor }, ?_, rfl,
    ⟨hnext.settings_eq, h.get?_eq, h.focused_eq, h.isReadOnly_eq⟩,
    decidedLine?_handle htyped hline 0, ?_, fun v hv => ?_⟩
  · rw [checkLine, h.lineLength_eq hs]
    dsimp only [bind, Except.bind]
    rw [htype]
    exact congrArg (fun e => Except.ok (handled.1, { handled.2 with editor := e })) hback
  · rw [terminatesAt_of_stemAt hs]
    exact insertedLine?_handle htyped hline hlow 0
  · rw [verdictAt_of_stemAt hs, verdict_of_handle htyped hline hlow 0 hv]

/-! ### All lines -/

theorem checkLines_cons_eq_ok {i : Nat} {is : List Nat} {r : FileRun} :
    checkLines d (i :: is) = .ok r ↔
      ∃ outcome d' r', checkLine d i = .ok (outcome, d') ∧ checkLines d' is = .ok r' ∧
        { r' with handled := (outcome, .notNeeded) :: r'.handled } = r := by
  rw [checkLines]
  cases checkLine d i with
  | error e => simp [bind, Except.bind]
  | ok handled =>
    obtain ⟨outcome, d'⟩ := handled
    cases hlines : checkLines d' is <;>
      simp [bind, Except.bind, pure, Except.pure, ← and_assoc, hlines]

/-- Lines that are checked, and then others, are checked together. -/
theorem checkLines_append {is js : List Nat} {r₁ r₂ : FileRun} (h₁ : checkLines d is = .ok r₁)
    (h₂ : checkLines r₁.dispatcher js = .ok r₂) :
    checkLines d (is ++ js) = .ok { r₂ with handled := r₁.handled ++ r₂.handled } := by
  induction is generalizing d r₁ with
  | nil =>
    cases h₁
    exact h₂
  | cons i is ih =>
    obtain ⟨outcome, d', r, hline, hlines, rfl⟩ := checkLines_cons_eq_ok.mp h₁
    exact checkLines_cons_eq_ok.mpr ⟨outcome, d', _, hline, ih hlines h₂, rfl⟩

/-- The lines are checked one after the other, and the editor is as it was. -/
theorem checkLines_eq {is : List Nat} (h : Running settings language checked d t)
    (his : ∀ i ∈ is, i < (pieces t).length) :
    ∃ r, checkLines d is = .ok r ∧ r.dispatcher.editor = d.editor ∧
      Running settings language checked r.dispatcher t ∧
      List.Forall₂ (fun i handled => LineChecked settings language t i handled.1) is r.handled := by
  induction is generalizing d with
  | nil => exact ⟨_, rfl, rfl, h, .nil⟩
  | cons i is ih =>
    rw [List.forall_mem_cons] at his
    obtain ⟨outcome, d', hline, heditor, hrunning, hchecked⟩ := checkLine_eq h his.1
    obtain ⟨r, hr, heditor', hrunning', hall⟩ := ih hrunning his.2
    exact ⟨_, checkLines_cons_eq_ok.mpr ⟨outcome, d', r, hline, hr, rfl⟩, heditor'.trans heditor,
      hrunning', .cons hchecked hall⟩

/-- The verdicts of a check are about all of its lines, or about none. -/
theorem verdictLines_eq {is : List Nat} {r : FileRun}
    (h : List.Forall₂ (fun i handled => LineChecked settings language t i handled.1) is r.handled) :
    r.verdicts.map (·.snapshot.line) = if settings.admits language then is else [] := by
  have hverdicts : r.verdicts.map (·.snapshot.line) =
      r.handled.filterMap fun handled => decidedLine? handled.1 := by
    rw [verdicts, List.map_filterMap]
    congr 1
    funext ⟨outcome, status⟩
    cases outcome <;> rfl
  rw [hverdicts]
  generalize r.handled = handled at h
  induction h with
  | nil => simp
  | cons hchecked _ ih =>
    cases ha : settings.admits language <;> simp [hchecked.decided, ih, ha]

/-- The verdicts of a check, as a function of the text. -/
theorem verdicts_eq {is : List Nat} {r : FileRun}
    (h : List.Forall₂ (fun i handled => LineChecked settings language t i handled.1) is r.handled) :
    r.verdicts =
      if settings.admits language then is.filterMap (verdictAt settings language t) else [] := by
  obtain ⟨handled, d⟩ := r
  dsimp only at h
  induction h with
  | nil => simp [verdicts]
  | @cons i handledLine is handled hchecked _ ih =>
    obtain ⟨outcome, status⟩ := handledLine
    have hdecided := hchecked.decided
    dsimp only at hdecided
    cases outcome with
    | skipped reason =>
      cases ha : settings.admits language with
      | false =>
        rw [ha] at ih
        exact ih
      | true =>
        rw [ha] at hdecided
        cases hdecided
    | decided v =>
      have hcons : FileRun.verdicts ⟨(.decided v, status) :: handled, d⟩ =
          v :: FileRun.verdicts ⟨handled, d⟩ := rfl
      cases ha : settings.admits language with
      | false =>
        rw [ha] at hdecided
        cases hdecided
      | true =>
        rw [ha] at ih
        rw [hcons, ih, if_pos rfl, if_pos rfl, List.filterMap_cons_some (hchecked.verdict v rfl)]

/-- The lines with a verdict to insert are those that get a terminator. -/
theorem insertLines_eq {is : List Nat} {r : FileRun}
    (h : List.Forall₂ (fun i handled => LineChecked settings language t i handled.1) is r.handled) :
    r.insertLines = (is.filter (terminatesAt settings language t)).toFinset := by
  obtain ⟨handled, d⟩ := r
  dsimp only at h
  induction h with
  | nil => rfl
  | @cons i handledLine is handled hchecked _ ih =>
    have hcons := insertLines_cons handledLine.1 handledLine.2 ⟨handled, d⟩
    rw [hcons, hchecked.inserted, ih, List.filter_cons]
    cases terminatesAt settings language t i with
    | false => rfl
    | true => exact (List.toFinset_cons ..).symm

end

/-! ### Files -/

/-- The lines of a file have the numbers of its first pieces. -/
theorem lt_length_pieces {t : Text} {i : Nat} (hi : i < (fileLines t).length) :
    i < (pieces t).length := by
  obtain ⟨ps, rest, hps, hlines⟩ := fileLines_pieces t
  rw [hps, List.length_append, ← hlines.length_eq]
  exact Nat.lt_add_right _ hi

/-- A check is never refused, and inserts where lines get a terminator. -/
theorem check_eq (settings : Settings) (language : Language) (t : Text) :
    ∃ c, check settings language t = .ok c ∧
      c.insertLines =
        ((List.range (fileLines t).length).filter (terminatesAt settings language t)).toFinset := by
  obtain ⟨c, hc, -, -, hall⟩ := checkLines_eq (running_start settings language checked t)
    fun i hi => lt_length_pieces (List.mem_range.mp hi)
  exact ⟨c, hc, insertLines_eq hall⟩

/-- The verdicts of a check of a file. -/
theorem check_verdicts (settings : Settings) (language : Language) (t : Text) :
    ∃ c, check settings language t = .ok c ∧
      c.verdicts = if settings.admits language then
        (List.range (fileLines t).length).filterMap (verdictAt settings language t) else [] := by
  obtain ⟨c, hc, -, -, hall⟩ := checkLines_eq (running_start settings language checked t)
    fun i hi => lt_length_pieces (List.mem_range.mp hi)
  exact ⟨c, hc, verdicts_eq hall⟩

/-- A check brings a verdict about each line of the file, one after the other, or none at all; and
after any number of lines, the document is what it was. -/
theorem check_decides_all_lines (settings : Settings) (language : Language) (t : Text) :
    ∃ r, check settings language t = .ok r ∧
      r.verdicts.map (·.snapshot.line) =
        (if settings.admits language then List.range (fileLines t).length else []) ∧
      ∀ n, ∃ r₁ r₂,
        checkLines (start settings checked language t)
          ((List.range (fileLines t).length).take n) = .ok r₁ ∧
        r₁.dispatcher.editor = (start settings checked language t).editor ∧
        r₁.text checked = t ∧
        checkLines r₁.dispatcher ((List.range (fileLines t).length).drop n) = .ok r₂ ∧
        r.handled = r₁.handled ++ r₂.handled := by
  have hstart := running_start settings language checked t
  have hlength : ∀ i ∈ List.range (fileLines t).length, i < (pieces t).length :=
    fun i hi => lt_length_pieces (List.mem_range.mp hi)
  obtain ⟨r, hr, -, -, hall⟩ := checkLines_eq hstart hlength
  refine ⟨r, hr, verdictLines_eq hall, fun n => ?_⟩
  obtain ⟨r₁, hr₁, heditor, hrunning, -⟩ :=
    checkLines_eq hstart fun i hi => hlength i (List.mem_of_mem_take hi)
  obtain ⟨r₂, hr₂, -⟩ :=
    checkLines_eq hrunning fun i hi => hlength i (List.mem_of_mem_drop hi)
  have hboth := checkLines_append hr₁ hr₂
  rw [List.take_append_drop, hr] at hboth
  rw [Except.ok.inj hboth]
  refine ⟨r₁, r₂, hr₁, heditor, ?_, hr₂, rfl⟩
  rw [FileRun.text, hrunning.get?_eq]
  rfl

end Semicolon.FileRun
