import Semicolon.Proofs.Text.Lines

/-!
# Text — line breaks of two characters

`longBreaks t` is the text with a carriage return in front of every line feed.

* `PieceAt.stemAt_longBreaks`: a line that does not end in a carriage return keeps its place among
  the lines, which have one carriage return more each (`pieces_longBreaks`).
* `fileLines_longBreaks`: if the text held no carriage return, the lines of the file are the same.
* `byteSize_terminated_returns`: a line stands one byte further for every line in front of it.
-/

namespace Semicolon.Text

/-- The text with a carriage return in front of every line feed. -/
def longBreaks (t : Text) : Text := t.flatMap fun c => if c = '\n' then ['\r', '\n'] else [c]

/-- The line breaks of two texts behind one another get longer one by one. -/
theorem longBreaks_append (s t : Text) : longBreaks (s ++ t) = longBreaks s ++ longBreaks t :=
  List.flatMap_append

/-- A line stays as it is. -/
theorem longBreaks_whole {l : Text} (h : '\n' ∉ l) : longBreaks l = l := by
  induction l with
  | nil => rfl
  | cons c l ih =>
    rw [List.mem_cons, not_or] at h
    rw [longBreaks, List.flatMap_cons, if_neg (Ne.symm h.1)]
    exact congrArg (c :: ·) (ih h.2)

/-- A carriage return at its end breaks no line. -/
theorem whole_returns {ls : List Text} (h : ∀ l ∈ ls, '\n' ∉ l) :
    ∀ l ∈ ls.map (· ++ ['\r']), '\n' ∉ l := by
  rw [List.forall_mem_map]
  intro l hl
  rw [List.mem_append, not_or]
  exact ⟨h l hl, by decide⟩

/-- Whole lines get a carriage return each. -/
theorem longBreaks_terminated {ls : List Text} (h : ∀ l ∈ ls, '\n' ∉ l) :
    longBreaks (terminated ls) = terminated (ls.map (· ++ ['\r'])) := by
  induction ls with
  | nil => rfl
  | cons l ls ih =>
    rw [List.forall_mem_cons] at h
    have hbreak : longBreaks ('\n' :: terminated ls) = '\r' :: '\n' :: longBreaks (terminated ls) :=
      rfl
    rw [terminated_cons, longBreaks_append, longBreaks_whole h.1, hbreak, ih h.2, List.map_cons,
      terminated_cons, List.append_assoc]
    rfl

/-- A line without carriage returns at its end keeps its place among the lines. -/
theorem PieceAt.stemAt_longBreaks {t piece rest : Text} {before : List Text}
    (h : PieceAt t before piece rest) (hlast : piece.getLast? ≠ some '\r') :
    ∃ returns rest', StemAt (longBreaks t) (before.map (· ++ ['\r'])) piece returns rest' := by
  have hbefore := whole_returns h.before_whole
  -- a line feed behind the line has got a carriage return, which belongs to the line now
  have hrest : ∃ returns rest', longBreaks rest = returns ++ rest' ∧ IsReturns returns ∧
      (rest' = [] ∨ ∃ r, rest' = '\n' :: r) := by
    rcases h.rest_breaks with rfl | ⟨r, rfl⟩
    · exact ⟨[], [], rfl, List.forall_mem_nil _, .inl rfl⟩
    · exact ⟨['\r'], '\n' :: longBreaks r, rfl, by simp [IsReturns], .inr ⟨_, rfl⟩⟩
  obtain ⟨returns, rest', hlong, hreturns, hbreaks⟩ := hrest
  refine ⟨returns, rest', ⟨?_, hbefore, ?_, hbreaks⟩, hlast, hreturns⟩
  · rw [h.text_eq, longBreaks_append, longBreaks_append, longBreaks_terminated h.before_whole,
      longBreaks_whole h.piece_whole, hlong, List.append_assoc]
  · rw [List.mem_append, not_or]
    exact ⟨h.piece_whole, fun hmem => absurd (hreturns _ hmem) (by decide)⟩

/-- Every piece but the last gets its carriage return. -/
theorem pieces_longBreaks {t last : Text} {ls : List Text} (h : pieces t = ls ++ [last]) :
    pieces (longBreaks t) = ls.map (· ++ ['\r']) ++ [last] := by
  obtain ⟨rfl, hls, hlast⟩ := eq_terminated_append h
  rw [longBreaks_append, longBreaks_terminated hls, longBreaks_whole hlast,
    pieces_terminated_append (whole_returns hls), pieces_of_whole hlast]

/-- The lines of a file do not tell which of the two line breaks ends them. -/
theorem fileLines_longBreaks {t : Text} (h : '\r' ∉ t) :
    fileLines (longBreaks t) = fileLines t := by
  obtain ⟨ls, last, hpieces⟩ := exists_last_piece t
  have hline : ∀ l ∈ ls, dropReturn (l ++ ['\r']) = dropReturn l := by
    intro l hl
    have hreturn : '\r' ∉ l := fun hmem =>
      h (mem_of_mem_pieces (by rw [hpieces]; exact List.mem_append_left _ hl) hmem)
    have hlast : l.getLast? ≠ some '\r' := fun hlast => hreturn (List.mem_of_getLast? hlast)
    rw [dropReturn_append_of_last hlast, dropReturn_eq_self hlast]
    exact List.append_nil l
  rw [fileLines, fileLines, pieces_longBreaks hpieces, hpieces, linesOfPieces_concat,
    linesOfPieces_concat, List.map_map]
  exact congrArg (· ++ _) (List.map_congr_left hline)

/-- Every line in front of a place moves it by one carriage return. -/
theorem byteSize_terminated_returns (ls : List Text) :
    byteSize (terminated (ls.map (· ++ ['\r']))) = byteSize (terminated ls) + ls.length := by
  induction ls with
  | nil => rfl
  | cons l ls ih =>
    have hreturn : byteSize ['\r'] = 1 := rfl
    simp only [List.map_cons, terminated_cons, byteSize_append, byteSize_cons, ih, hreturn,
      List.length_cons]
    omega

end Semicolon.Text
