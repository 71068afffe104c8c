import Semicolon.Proofs.Dispatcher.Outcomes
import Semicolon.Proofs.Document.Breaks

/-!
# Dispatcher — the judgement of a line break at a place

The line that a line break leaves is a stem and carriage returns, and at most the last of these is
dropped.  `breakVerdict` is the verdict about it.

* `judge_of_stemAt`: if the settings admit the language, this is the judgement.
* `judge_eq_decided_of_stemAt`: there is no other decision.
* `endOffset_of_judge`: the place that was left has the byte offset of the end of the line.
* `terminatedAt_of_judge`: the terminator that is decided goes to the end of the line.
* `judge_terminatedAt`: a line that has its terminator gets no other.
-/

namespace Semicolon.Dispatcher
open Text

/-- The verdict about a line that was left at a column. -/
def breakVerdict (settings : Settings) (l : Language) (d : Document) (before : List Text)
    (stem returns : Text) (column : Nat) : Verdict :=
  let raw := stem ++ returns.dropLast
  ⟨l, classifyLine settings l (terminated before) (stem.take column) raw,
    .of raw (settings.uncomment raw) before.length (d.offsetAt ⟨before.length, raw.length⟩)⟩

section

variable {settings : Settings} {editor : Editor} {name : String} {d : Document} {l : Language}
  {change : Change} {v : Verdict} {before : List Text} {stem returns rest : Text} {column : Nat}

theorem judge_of_stemAt (hd : editor.get? name = some d) (hl : d.languageId = l.id)
    (ha : settings.admits l = true) (hbare : change.isBareNewline = true)
    (hfocused : editor.focused = some name) (h : StemAt d.text before stem returns rest)
    (hstart : change.range.start = ⟨before.length, column⟩) :
    judge settings editor name change =
      .decided (breakVerdict settings l d before stem returns column) := by
  have hsnapshot := snapshotAt?_eq settings hl (Document.line?_of_stemAt h)
  have hcut := Document.splits_of_stemAt h column
  have hline : change.range.start.line = before.length := by rw [hstart]
  rw [← hline] at hsnapshot
  rw [judge_of_admits hd hl ha hbare hfocused hsnapshot, hstart,
    verdictOn_of_cut settings l hcut.cuts (getLast?_terminated before) hcut.left_whole]
  rfl

/-- A line break at the place is decided in one way only. -/
theorem judge_eq_decided_of_stemAt (hd : editor.get? name = some d)
    (h : StemAt d.text before stem returns rest)
    (hstart : change.range.start = ⟨before.length, column⟩)
    (hv : judge settings editor name change = .decided v) :
    v = breakVerdict settings v.language d before stem returns column := by
  obtain ⟨d', hd', hl, ha, hbare, hfocused, -, -⟩ := judge_eq_decided hv
  obtain rfl : d = d' := Option.some.inj (hd.symm.trans hd')
  rw [judge_of_stemAt hd hl ha hbare hfocused h hstart] at hv
  exact (Outcome.decided.inj hv).symm

/-- The end of a line that was left and the place where it was left have the same byte offset. -/
theorem endOffset_of_judge (hd : editor.get? name = some d)
    (hleft : d.LeftAt change.range.start) (hv : judge settings editor name change = .decided v) :
    v.snapshot.endOffset = d.offsetAt change.range.start := by
  obtain ⟨before, stem, returns, rest, hline, hcolumn, h⟩ := hleft
  have hstart : change.range.start = ⟨before.length, change.range.start.column⟩ := by
    rw [← hline]
  have hbehind : stem.length ≤ (stem ++ returns.dropLast).length :=
    (List.sublist_append_left stem returns.dropLast).length_le
  rw [judge_eq_decided_of_stemAt hd h hstart hv, hstart]
  exact (Document.cuts_behind_stem h hbehind).offset_eq.trans
    (Document.cuts_behind_stem h hcolumn).offset_eq.symm

/-- The terminator that is decided for a line that was left goes to its end. -/
theorem terminatedAt_of_judge {d' : Document} (hd : editor.get? name = some d)
    (hleft : d.LeftAt change.range.start) (hv : judge settings editor name change = .decided v)
    (hd' : d.insert v.snapshot.endPosition [';'] = .ok d') :
    d'.TerminatedAt change.range.start := by
  obtain ⟨before, stem, returns, rest, hline, hcolumn, h⟩ := hleft
  have hstart : change.range.start = ⟨before.length, change.range.start.column⟩ := by
    rw [← hline]
  have hend : v.snapshot.endPosition = ⟨before.length, (stem ++ returns.dropLast).length⟩ := by
    rw [judge_eq_decided_of_stemAt hd h hstart hv]
    rfl
  have hbehind : stem.length ≤ (stem ++ returns.dropLast).length :=
    (List.sublist_append_left stem returns.dropLast).length_le
  rw [hend] at hd'
  rw [Document.insert_terminator h hbehind hd']
  exact ⟨before, stem, returns, rest, hline, hcolumn, Document.stemAt_terminator h⟩

/-- A line that has its terminator gets no other. -/
theorem judge_terminatedAt (hd : editor.get? name = some d)
    (ht : d.TerminatedAt change.range.start)
    (hv : judge settings editor name change = .decided v) :
    v.classification.decision = .suppress := by
  obtain ⟨before, stem, returns, rest, hline, hcolumn, h⟩ := ht
  have hstart : change.range.start = ⟨before.length, change.range.start.column⟩ := by
    rw [← hline]
  have hleft : (stem ++ [';']).take change.range.start.column = stem ∨
      (stem ++ [';']).take change.range.start.column = stem ++ [';'] := by
    rcases Nat.eq_or_lt_of_le hcolumn with heq | hlt
    · exact .inl (by rw [← heq, List.take_left])
    · exact .inr (List.take_of_length_le (by rw [List.length_append]; exact hlt))
  have hreturns : IsReturns returns.dropLast :=
    fun c hc => h.returns_only c (List.dropLast_subset _ hc)
  rw [judge_eq_decided_of_stemAt hd h hstart hv, breakVerdict]
  dsimp only
  rw [List.append_assoc stem [';']]
  exact classifyLine_terminated settings v.language (terminated before) stem hleft hreturns

end

end Semicolon.Dispatcher
