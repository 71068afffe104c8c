import Semicolon.Proofs.FileRun.Check
import Semicolon.Proofs.Text.LongBreaks

/-!
# FileRun — line feeds and longer line breaks

**Main result** (`runs_of_longBreaks`).  A file whose line breaks are a carriage return and a line
feed is decided as the file with line feeds alone: a check brings the same verdicts, but that the
end of a line stands one byte further for every line in front of it, and a replay is the very same
run.

A replay reads the lines of the file only, and these are the same.  A check reads the text, where
every line in front of a place holds one character more.  That character is no quote, and it does
not belong to the line that it ends (`verdictAt_longBreaks`).
-/

namespace Semicolon.FileRun
open Text

section

variable {settings : Settings} {language : Language} {t : Text}

/-- Lines hold the same quotes if each has a carriage return more. -/
theorem sameQuotes_returns (ls : List Text) :
    Literal.SameQuotes (terminated ls) (terminated (ls.map (· ++ ['\r']))) := by
  have hlines : List.Forall₂ (fun l piece => piece = l ∨ piece = l ++ ['\r']) ls
      (ls.map (· ++ ['\r'])) := by
    rw [List.forall₂_map_right_iff, List.forall₂_same]
    exact fun l _ => .inr rfl
  exact sameQuotes_terminated hlines (.refl [])

/-- The verdict about a line, behind lines that have a carriage return more. -/
theorem lineVerdict_returns (before : List Text) (line : Text) :
    lineVerdict settings language (before.map (· ++ ['\r'])) line =
      { lineVerdict settings language before line with
        snapshot.endOffset := byteSize (terminated before ++ line) + before.length } := by
  rw [lineVerdict, lineVerdict, List.length_map,
    ← classifyLine_congr settings language (sameQuotes_returns before), byteSize_append,
    byteSize_append, byteSize_terminated_returns, Nat.add_right_comm]
  rfl

/-- The verdict about a line is the same but for the place where the line ends. -/
theorem verdictAt_longBreaks (h : '\r' ∉ t) {i : Nat} (hi : i < (pieces t).length) :
    verdictAt settings language t.longBreaks i =
      (verdictAt settings language t i).map fun v =>
        { v with snapshot.endOffset := v.snapshot.endOffset + v.snapshot.line } := by
  obtain ⟨rest, hat⟩ := exists_pieceAt (List.getElem?_eq_getElem hi)
  have hlast : (pieces t)[i].getLast? ≠ some '\r' := fun hlast =>
    h (mem_of_mem_pieces (List.getElem_mem hi) (List.mem_of_getLast? hlast))
  generalize hbefore : (pieces t).take i = before at hat
  obtain rfl : before.length = i := by rw [← hbefore, List.length_take_of_le (Nat.le_of_lt hi)]
  obtain ⟨returns, rest', hlong⟩ := hat.stemAt_longBreaks hlast
  have hshort := stemAt_of_whole hat.before_whole hat.piece_whole hlast hat.rest_breaks
  rw [List.append_assoc, ← hat.text_eq] at hshort
  have hverdict : verdictAt settings language t.longBreaks (before.map (· ++ ['\r'])).length =
      some (lineVerdict settings language (before.map (· ++ ['\r'])) _) :=
    verdictAt_of_stemAt hlong
  rw [List.length_map] at hverdict
  rw [hverdict, verdictAt_of_stemAt hshort, lineVerdict_returns]
  rfl

end

/-- A file is decided as the one with a carriage return in front of every line feed: only the ends
of its lines stand further, each by the lines in front of it, and what is typed is the same. -/
theorem runs_of_longBreaks (settings : Settings) (language : Language) {t : Text} (h : '\r' ∉ t) :
    (∃ c c', check settings language t = .ok c ∧
      check settings language t.longBreaks = .ok c' ∧
      c'.verdicts = c.verdicts.map fun v =>
        { v with snapshot.endOffset := v.snapshot.endOffset + v.snapshot.line }) ∧
    replay settings language t.longBreaks = replay settings language t := by
  constructor
  · obtain ⟨c, hc, hverdicts⟩ := check_verdicts settings language t
    obtain ⟨c', hc', hverdicts'⟩ := check_verdicts settings language t.longBreaks
    refine ⟨c, c', hc, hc', ?_⟩
    rw [hverdicts', hverdicts, fileLines_longBreaks h]
    split
    · rw [List.map_filterMap]
      apply List.filterMap_congr
      intro i hi
      exact verdictAt_longBreaks h (lt_length_pieces (List.mem_range.mp hi))
    · rfl
  · rw [replay, replay, fileLines_longBreaks h]

/-- A line that ends in a backslash inside of a string, a line that closes the string, and a
declaration. -/
theorem runs_of_longBreaks_of_backslash :
    ∃ c c' : FileRun, check .default .java "s = 'a\\\n'\nint x = 1".toList = .ok c ∧
      check .default .java "s = 'a\\\r\n'\r\nint x = 1".toList = .ok c' ∧
      (c.verdicts.map fun v => (v.classification.decision, v.snapshot.endOffset)) =
        [(.suppress, 7), (.suppress, 9), (.insert, 19)] ∧
      (c'.verdicts.map fun v => (v.classification.decision, v.snapshot.endOffset)) =
        [(.suppress, 7), (.suppress, 10), (.insert, 21)] ∧
      replay .default .java "s = 'a\\\r\n'\r\nint x = 1".toList =
        replay .default .java "s = 'a\\\n'\nint x = 1".toList := by
  have h : '\r' ∉ "s = 'a\\\n'\nint x = 1".toList := by decide
  have hlong : longBreaks "s = 'a\\\n'\nint x = 1".toList =
      "s = 'a\\\r\n'\r\nint x = 1".toList := by decide
  obtain ⟨⟨c, c', hc, hc', hverdicts⟩, hreplay⟩ := runs_of_longBreaks .default .java h
  obtain ⟨c₀, hc₀, hall⟩ := check_verdicts .default .java "s = 'a\\\n'\nint x = 1".toList
  obtain rfl : c = c₀ := Except.ok.inj (hc.symm.trans hc₀)
  rw [hlong] at hc' hreplay
  refine ⟨c, c', hc, hc', ?_, ?_, hreplay⟩
  · rw [hall]
    decide
  · rw [hverdicts, hall]
    decide

end Semicolon.FileRun
