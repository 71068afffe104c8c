import Semicolon.Proofs.FileRun.Check
import Semicolon.Proofs.FileRun.Replay

/-!
# FileRun — check and replay agree

**Main result** (`check_replay_agree`).  If no line of a file ends in a carriage return, a replay
types the lines of the file and puts a terminator behind just those that a check would terminate.

The two runs decide a line behind different texts: a check behind the file as it is, with its own
line breaks and without new terminators, and a replay behind what it has typed.  Both texts hold the
same quotes (`sameQuotes_terminated`), and nothing else of them matters.
-/

namespace Semicolon.FileRun
open Text

section

variable {settings : Settings} {language : Language} {t : Text}

/-- A line of a file is decided behind the lines in front of it. -/
theorem terminatesAt_eq {i : Nat} {l : Text} (hi : (fileLines t)[i]? = some l)
    (hlast : l.getLast? ≠ some '\r') :
    terminatesAt settings language t i =
      terminates settings language (terminated ((fileLines t).take i)) l := by
  obtain ⟨ps, rest, hps, hlines⟩ := fileLines_pieces t
  obtain ⟨hlength, hl⟩ := List.getElem?_eq_some_iff.mp hi
  have hlength' : i < ps.length := hlines.length_eq ▸ hlength
  have hpiece := hlines.get hlength hlength'
  rw [List.get_eq_getElem, List.get_eq_getElem, hl] at hpiece
  have hline : withoutReturns ps[i] = l := by
    rcases hpiece with hp | hp
    · rw [hp, withoutReturns_eq_self hlast]
    · have hreturn : IsReturns ['\r'] := by simp [IsReturns]
      rw [hp, withoutReturns_append hlast hreturn]
  -- the pieces in front are the lines in front, up to carriage returns
  have hfront := sameQuotes_terminated (List.forall₂_take i hlines) (.refl [])
  have hat : (pieces t)[i]? = some ps[i] := by
    rw [hps, List.getElem?_append_left hlength', List.getElem?_eq_getElem hlength']
  have htake : (pieces t).take i = ps.take i := by
    rw [hps, List.take_append_of_le_length (Nat.le_of_lt hlength')]
  rw [terminatesAt, hat]
  dsimp only
  rw [hline, htake]
  exact (terminates_congr hfront l).symm

theorem terminators_eq_map_range (h : ∀ l ∈ fileLines t, l.getLast? ≠ some '\r') :
    terminators settings language [] (fileLines t) =
      (List.range (fileLines t).length).map (terminatesAt settings language t) := by
  apply List.ext_getElem?
  intro i
  rw [getElem?_terminators, List.getElem?_map]
  cases hi : (fileLines t)[i]? with
  | none =>
    have hrange : (List.range (fileLines t).length)[i]? = none := by
      rw [List.getElem?_eq_none_iff] at hi ⊢
      rwa [List.length_range]
    rw [hrange]
    rfl
  | some l =>
    have hlength := (List.getElem?_eq_some_iff.mp hi).1
    rw [List.getElem?_range hlength, Option.map_some, Option.map_some,
      terminatesAt_eq hi (h l (List.mem_of_getElem? hi))]
    rfl

/-- The lines of a file with their terminators, one after the other. -/
theorem terminated_withTerminators (h : ∀ l ∈ fileLines t, l.getLast? ≠ some '\r') :
    terminated (withTerminators settings language [] (fileLines t)) =
      (fileLines t).zipIdx.flatMap fun (l, i) =>
        l ++ (if terminatesAt settings language t i then [';'] else []) ++ ['\n'] := by
  have hzip : withTerminators settings language [] (fileLines t) =
      (fileLines t).zipIdx.map fun (l, i) =>
        withTerminator (terminatesAt settings language t i) l := by
    rw [withTerminators, terminators_eq_map_range h]
    apply List.ext_getElem?
    intro i
    rw [List.getElem?_zipWith, List.getElem?_map, List.getElem?_map, List.getElem?_zipIdx]
    cases hi : (fileLines t)[i]? with
    | none => cases (List.range (fileLines t).length)[i]? <;> rfl
    | some l =>
      rw [List.getElem?_range (List.getElem?_eq_some_iff.mp hi).1]
      simp
  rw [hzip, terminated, List.flatMap_map]
  rfl

end

/-- If no line of a file ends in a carriage return, a replay types the lines of the file and puts a
terminator behind just those that a check would terminate. -/
theorem check_replay_agree (settings : Settings) (language : Language) {t : Text}
    (h : ∀ l ∈ fileLines t, l.getLast? ≠ some '\r') :
    ∃ c r, check settings language t = .ok c ∧ replay settings language t = .ok r ∧
      r.text replayed = ((fileLines t).zipIdx.flatMap fun (l, i) =>
        l ++ (if i ∈ c.insertLines then [';'] else []) ++ ['\n']) ∧
      r.inserted = c.insertLines.card := by
  obtain ⟨c, hc, hinsert⟩ := check_eq settings language t
  obtain ⟨r, hr, htext, hinserted⟩ := replay_eq settings language h
  refine ⟨c, r, hc, hr, ?_, ?_⟩
  · rw [htext, terminated_withTerminators h]
    apply List.flatMap_congr
    rintro ⟨l, i⟩ hi
    have hlength : i < (fileLines t).length := List.snd_lt_of_mem_zipIdx hi
    have hmem : i ∈ c.insertLines ↔ terminatesAt settings language t i = true := by
      rw [hinsert, List.mem_toFinset, List.mem_filter, List.mem_range]
      exact and_iff_right hlength
    simp only [hmem]
  · have hcard : c.insertLines.card =
        ((List.range (fileLines t).length).filter (terminatesAt settings language t)).length := by
      rw [hinsert, List.toFinset_card_of_nodup (List.nodup_range.filter _)]
    rw [hinserted, hcard, terminators_eq_map_range h, List.count, List.countP_map,
      ← List.countP_eq_length_filter]
    congr 1
    funext i
    exact beq_true _

/-- A declaration without its terminator and a comment. -/
theorem check_replay_agree_of_java :
    ∃ c r, check .default .java "int x = 1\n// done".toList = .ok c ∧
      replay .default .java "int x = 1\n// done".toList = .ok r ∧
      r.text replayed = ((fileLines "int x = 1\n// done".toList).zipIdx.flatMap fun (l, i) =>
        l ++ (if i ∈ c.insertLines then [';'] else []) ++ ['\n']) ∧
      r.inserted = c.insertLines.card ∧ c.insertLines.card = 1 := by
  have h : ∀ l ∈ fileLines "int x = 1\n// done".toList, l.getLast? ≠ some '\r' := by decide
  obtain ⟨c, r, hc, hr, htext, hinserted⟩ := check_replay_agree .default .java h
  obtain ⟨r', hr', -, hcount⟩ := replay_eq .default .java h
  obtain rfl : r = r' := Except.ok.inj (hr.symm.trans hr')
  refine ⟨c, r, hc, hr, htext, hinserted, ?_⟩
  rw [← hinserted, hcount]
  decide

end Semicolon.FileRun
