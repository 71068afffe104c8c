import Mathlib.Data.List.DropRight
import Mathlib.Data.List.Forall2
import Semicolon.Text.Blank
import Semicolon.Text.Lines

/-!
# Text — the piece at a number

`pieces` is a function; the proofs need to know where a piece stands.  `PieceAt t before piece rest`
says that `t` is the lines `before`, each with its line feed, then `piece`, then `rest`.

* `pieces_terminated_append`: whole lines in front of a text are its first pieces.
* `PieceAt.getElem?` and `exists_pieceAt`: the piece with a number is the one that stands behind
  that many lines, and every piece stands somewhere.
* `pieces_append`: where two texts meet, two pieces become one.
* `StemAt` and `PieceAt.exists_stemAt`: a piece is a stem that does not end in a carriage return,
  and carriage returns.
* `fileLines_terminated`: whole lines are the lines of their file, up to a carriage return.
* `fileLines_pieces`: a line of a file is the piece with its number, up to a carriage return.
-/

namespace Semicolon.Text

/-! ### Pieces -/

/-- A character that is no line feed belongs to the first piece. -/
theorem pieces_cons {c : Char} {t piece : Text} {ps : List Text} (hc : c ≠ '\n')
    (ht : pieces t = piece :: ps) : pieces (c :: t) = (c :: piece) :: ps := by
  rw [pieces, ht]
  exact hc

/-- A text without a line feed is one piece. -/
theorem pieces_of_whole {t : Text} (h : '\n' ∉ t) : pieces t = [t] := by
  induction t with
  | nil => rfl
  | cons c t ih =>
    rw [List.mem_cons, not_or] at h
    exact pieces_cons (Ne.symm h.1) (ih h.2)

/-- A line in front of a line feed is the first piece. -/
theorem pieces_whole_append {l : Text} (h : '\n' ∉ l) (t : Text) :
    pieces (l ++ '\n' :: t) = l :: pieces t := by
  induction l with
  | nil => rfl
  | cons c l ih =>
    rw [List.mem_cons, not_or] at h
    exact pieces_cons (Ne.symm h.1) (ih h.2)

/-- A text without a line feed that is put in front lengthens the first piece. -/
theorem pieces_prepend {l t first : Text} {ps : List Text} (h : '\n' ∉ l)
    (ht : pieces t = first :: ps) : pieces (l ++ t) = (l ++ first) :: ps := by
  induction l with
  | nil => exact ht
  | cons c l ih =>
    rw [List.mem_cons, not_or] at h
    exact pieces_cons (Ne.symm h.1) (ih h.2)

/-- Lines, each with its line feed. -/
def terminated (ls : List Text) : Text := ls.flatMap (· ++ ['\n'])

@[simp] theorem terminated_nil : terminated [] = [] := rfl

@[simp] theorem terminated_cons (l : Text) (ls : List Text) :
    terminated (l :: ls) = l ++ '\n' :: terminated ls := by
  simp [terminated]

@[simp] theorem terminated_append (ls ms : List Text) :
    terminated (ls ++ ms) = terminated ls ++ terminated ms := by
  simp [terminated]

/-- One more line goes to the end, with its line feed. -/
theorem terminated_concat (ls : List Text) (l : Text) :
    terminated (ls ++ [l]) = terminated ls ++ (l ++ ['\n']) := by
  rw [terminated_append, terminated_cons, terminated_nil]

/-- Whole lines in front of a text are its first pieces. -/
theorem pieces_terminated_append {ls : List Text} (h : ∀ l ∈ ls, '\n' ∉ l) (t : Text) :
    pieces (terminated ls ++ t) = ls ++ pieces t := by
  induction ls with
  | nil => rfl
  | cons l ls ih =>
    rw [List.forall_mem_cons] at h
    rw [terminated_cons, List.append_assoc, List.cons_append, pieces_whole_append h.1, ih h.2]
    rfl

/-- Whole lines have one line feed each. -/
theorem count_terminated {ls : List Text} (h : ∀ l ∈ ls, '\n' ∉ l) :
    (terminated ls).count '\n' = ls.length := by
  induction ls with
  | nil => rfl
  | cons l ls ih =>
    rw [List.forall_mem_cons] at h
    rw [terminated_cons, List.count_append, List.count_eq_zero.mpr h.1, List.count_cons_self,
      ih h.2, Nat.zero_add]
    rfl

/-- No text in front of a line, or a line feed right before it. -/
theorem getLast?_terminated (ls : List Text) :
    terminated ls = [] ∨ (terminated ls).getLast? = some '\n' := by
  rcases List.eq_nil_or_concat ls with rfl | ⟨ms, l, rfl⟩
  · exact .inl rfl
  · right
    rw [List.concat_eq_append, terminated_append, terminated_cons, terminated_nil]
    simp

/-! ### The place of a piece -/

/-- `t` is the lines `before`, then `piece` up to a line feed or the end, then `rest`. -/
structure PieceAt (t : Text) (before : List Text) (piece rest : Text) : Prop where
  text_eq : t = terminated before ++ (piece ++ rest)
  before_whole : ∀ l ∈ before, '\n' ∉ l
  piece_whole : '\n' ∉ piece
  rest_breaks : rest = [] ∨ ∃ r, rest = '\n' :: r

namespace PieceAt

variable {t piece rest : Text} {before : List Text}

/-- The pieces in front of a piece are the lines in front of it. -/
theorem pieces_eq (h : PieceAt t before piece rest) :
    ∃ ps, pieces t = before ++ piece :: ps := by
  rw [h.text_eq, pieces_terminated_append h.before_whole]
  rcases h.rest_breaks with rfl | ⟨r, rfl⟩
  · rw [List.append_nil, pieces_of_whole h.piece_whole]
    exact ⟨[], rfl⟩
  · rw [pieces_whole_append h.piece_whole]
    exact ⟨pieces r, rfl⟩

/-- So the number of a piece is the number of these lines. -/
theorem getElem? (h : PieceAt t before piece rest) :
    (pieces t)[before.length]? = some piece := by
  obtain ⟨ps, hps⟩ := h.pieces_eq
  rw [hps, List.getElem?_append_right (Nat.le_refl _), Nat.sub_self, List.getElem?_cons_zero]

end PieceAt

/-- Every piece stands somewhere. -/
theorem exists_pieceAt {t piece : Text} {k : Nat} (h : (pieces t)[k]? = some piece) :
    ∃ rest, PieceAt t ((pieces t).take k) piece rest := by
  induction k generalizing t with
  | zero =>
    by_cases hw : '\n' ∈ t
    · obtain ⟨l, r, rfl, hl⟩ := List.eq_append_cons_of_mem hw
      rw [pieces_whole_append hl] at h
      obtain rfl : l = piece := by simpa using h
      exact ⟨'\n' :: r, rfl, by simp, hl, .inr ⟨r, rfl⟩⟩
    · rw [pieces_of_whole hw] at h
      obtain rfl : t = piece := by simpa using h
      exact ⟨[], by simp, by simp, hw, .inl rfl⟩
  | succ k ih =>
    -- the first line is cut off, and the number counts one less
    by_cases hw : '\n' ∈ t
    · obtain ⟨l, r, rfl, hl⟩ := List.eq_append_cons_of_mem hw
      rw [pieces_whole_append hl] at h ⊢
      obtain ⟨rest, hr⟩ := ih (t := r) (by simpa using h)
      refine ⟨rest, ?_, ?_, hr.piece_whole, hr.rest_breaks⟩
      · rw [List.take_succ_cons, terminated_cons, List.append_assoc, List.cons_append,
          ← hr.text_eq]
      · rw [List.take_succ_cons, List.forall_mem_cons]
        exact ⟨hl, hr.before_whole⟩
    · rw [pieces_of_whole hw] at h
      simp at h

/-- A piece holds no line feed. -/
theorem notMem_of_mem_pieces {t piece : Text} (h : piece ∈ pieces t) : '\n' ∉ piece := by
  obtain ⟨k, hk⟩ := List.getElem?_of_mem h
  obtain ⟨rest, hpiece⟩ := exists_pieceAt hk
  exact hpiece.piece_whole

/-- The characters of a piece are characters of the text. -/
theorem mem_of_mem_pieces {c : Char} {t piece : Text} (h : piece ∈ pieces t) (hc : c ∈ piece) :
    c ∈ t := by
  obtain ⟨k, hk⟩ := List.getElem?_of_mem h
  obtain ⟨rest, hpiece⟩ := exists_pieceAt hk
  rw [hpiece.text_eq]
  exact List.mem_append_right _ (List.mem_append_left rest hc)

/-- A text has a last piece. -/
theorem exists_last_piece (t : Text) : ∃ ls last, pieces t = ls ++ [last] :=
  ⟨_, _, (List.dropLast_append_getLast (pieces_ne_nil t)).symm⟩

/-- A text is its pieces, each but the last with its line feed. -/
theorem eq_terminated_append {t last : Text} {ls : List Text} (h : pieces t = ls ++ [last]) :
    t = terminated ls ++ last ∧ (∀ l ∈ ls, '\n' ∉ l) ∧ '\n' ∉ last := by
  have hlast : (pieces t)[ls.length]? = some last := by rw [h, List.getElem?_concat_length]
  obtain ⟨rest, hpiece⟩ := exists_pieceAt hlast
  rw [h, List.take_left] at hpiece
  refine ⟨?_, hpiece.before_whole, hpiece.piece_whole⟩
  rcases hpiece.rest_breaks with rfl | ⟨r, rfl⟩
  · rw [← List.append_nil last]
    exact hpiece.text_eq
  · -- a line feed behind the last piece would begin one more
    rw [hpiece.text_eq, pieces_terminated_append hpiece.before_whole,
      pieces_whole_append hpiece.piece_whole, List.append_cancel_left_eq, List.cons.injEq] at h
    exact absurd h.2 (pieces_ne_nil r)

/-- Where two texts meet, the last piece of the one and the first piece of the other are one. -/
theorem pieces_append {s t last first : Text} {ls ps : List Text} (hs : pieces s = ls ++ [last])
    (ht : pieces t = first :: ps) : pieces (s ++ t) = ls ++ (last ++ first) :: ps := by
  obtain ⟨rfl, hls, hlast⟩ := eq_terminated_append hs
  rw [List.append_assoc, pieces_terminated_append hls, pieces_prepend hlast ht]

/-! ### Carriage returns at an end -/

/-- Nothing but carriage returns. -/
def IsReturns (t : Text) : Prop := ∀ c ∈ t, c = '\r'

/-- Every carriage return belongs to a line break. -/
def ReturnsPaired (t : Text) : Prop := ∀ a b, t = a ++ '\r' :: b → ∃ c, b = '\n' :: c

/-- The text without the carriage returns at its end. -/
def withoutReturns (t : Text) : Text := t.dropEndWhile (· = '\r')

/-- A text is a stem and the carriage returns behind it. -/
theorem exists_stem (t : Text) :
    ∃ stem returns, t = stem ++ returns ∧ stem.getLast? ≠ some '\r' ∧ IsReturns returns := by
  refine ⟨t.rdropWhile (· = '\r'), t.rtakeWhile (· = '\r'),
    List.rdropWhile_append_rtakeWhile.symm, fun h => ?_, fun c hc => ?_⟩
  · have hne : t.rdropWhile (· = '\r') ≠ [] := by
      rintro h0
      rw [h0] at h
      cases h
    -- the last character of what `rdropWhile` keeps is no carriage return
    have hlast := List.getLast_of_getLast?_eq_some h
    exact List.rdropWhile_last_not _ t hne (by simp [hlast])
  · simpa using List.mem_rtakeWhile_imp hc

/-- Of a stem and carriage returns the stem is left. -/
theorem withoutReturns_append {stem returns : Text} (hs : stem.getLast? ≠ some '\r')
    (hr : IsReturns returns) : withoutReturns (stem ++ returns) = stem := by
  have hstem : stem.rdropWhile (· = '\r') = stem := by
    rw [List.rdropWhile_eq_self_iff]
    intro hne hlast
    rw [List.getLast?_eq_some_getLast hne] at hs
    exact hs (by simpa using hlast)
  have hreturns : ∀ c ∈ returns.reverse, decide (c = '\r') = true := by
    intro c hc
    simpa using hr c (List.mem_reverse.mp hc)
  rw [withoutReturns, dropEndWhile, List.reverse_append, List.dropWhile_append_of_pos hreturns]
  exact hstem

theorem withoutReturns_eq_self {t : Text} (h : t.getLast? ≠ some '\r') : withoutReturns t = t := by
  have hr : IsReturns [] := List.forall_mem_nil _
  simpa using withoutReturns_append h hr

theorem withoutReturns_isPrefix (t : Text) : withoutReturns t <+: t :=
  List.rdropWhile_prefix _ t

/-- All of a text is left exactly if it does not end in a carriage return. -/
theorem withoutReturns_eq_self_iff {t : Text} :
    withoutReturns t = t ↔ t.getLast? ≠ some '\r' := by
  obtain ⟨stem, returns, rfl, hs, hr⟩ := exists_stem t
  refine ⟨fun h => ?_, withoutReturns_eq_self⟩
  rwa [← h, withoutReturns_append hs hr]

/-- One of the carriage returns is dropped, if there is one. -/
theorem dropReturn_append {stem returns : Text} (hs : stem.getLast? ≠ some '\r')
    (hr : IsReturns returns) : dropReturn (stem ++ returns) = stem ++ returns.dropLast := by
  rcases List.eq_nil_or_concat returns with rfl | ⟨rs, c, rfl⟩
  · rw [List.append_nil, dropReturn, if_neg hs]
    exact (List.append_nil stem).symm
  · obtain rfl : c = '\r' := hr c (by simp)
    rw [List.concat_eq_append, ← List.append_assoc, dropReturn, if_pos (by simp),
      List.dropLast_concat, List.dropLast_concat]

/-- A text that does not end in a carriage return keeps its last character. -/
theorem dropReturn_eq_self {t : Text} (h : t.getLast? ≠ some '\r') : dropReturn t = t :=
  if_neg h

/-- So does every line of a list of such lines. -/
theorem map_dropReturn_eq_self {ls : List Text} (h : ∀ l ∈ ls, l.getLast? ≠ some '\r') :
    ls.map dropReturn = ls := by
  calc
    ls.map dropReturn = ls.map id := List.map_congr_left fun l hl => dropReturn_eq_self (h l hl)
    _ = ls := List.map_id ls

/-- The carriage return that is dropped is one of the last part. -/
theorem dropReturn_append_of_last {s : Text} (h : s.getLast? ≠ some '\r') (t : Text) :
    dropReturn (s ++ t) = s ++ dropReturn t := by
  rcases List.eq_nil_or_concat t with rfl | ⟨u, c, rfl⟩
  · rw [List.append_nil, dropReturn_eq_self h]
    exact (List.append_nil s).symm
  · rw [List.concat_eq_append, ← List.append_assoc, dropReturn, dropReturn, List.getLast?_concat,
      List.getLast?_concat, List.dropLast_concat, List.dropLast_concat]
    split
    · rfl
    · rw [List.append_assoc]

/-- A text is what is left of it, or that and a carriage return. -/
theorem eq_dropReturn_or (t : Text) : t = dropReturn t ∨ t = dropReturn t ++ ['\r'] := by
  by_cases hlast : t.getLast? = some '\r'
  · obtain ⟨u, rfl⟩ := List.getLast?_eq_some_iff.mp hlast
    right
    rw [dropReturn, if_pos hlast, List.dropLast_concat]
  · left
    rw [dropReturn_eq_self hlast]

/-- The piece behind `before` is a stem that does not end in a carriage return, and `returns`. -/
structure StemAt (t : Text) (before : List Text) (stem returns rest : Text) : Prop
    extends PieceAt t before (stem ++ returns) rest where
  stem_last : stem.getLast? ≠ some '\r'
  returns_only : IsReturns returns

/-- Every piece is a stem and carriage returns. -/
theorem PieceAt.exists_stemAt {t piece rest : Text} {before : List Text}
    (h : PieceAt t before piece rest) :
    ∃ stem returns, piece = stem ++ returns ∧ StemAt t before stem returns rest := by
  obtain ⟨stem, returns, rfl, hs, hr⟩ := exists_stem piece
  exact ⟨stem, returns, rfl, h, hs, hr⟩

/-- A line that does not end in a carriage return, behind whole lines. -/
theorem stemAt_of_whole {before : List Text} {line rest : Text} (hbefore : ∀ l ∈ before, '\n' ∉ l)
    (hline : '\n' ∉ line) (hlast : line.getLast? ≠ some '\r')
    (hrest : rest = [] ∨ ∃ r, rest = '\n' :: r) :
    StemAt (terminated before ++ line ++ rest) before line [] rest where
  text_eq := by rw [List.append_nil, List.append_assoc]
  before_whole := hbefore
  piece_whole := by rwa [List.append_nil]
  rest_breaks := hrest
  stem_last := hlast
  returns_only := List.forall_mem_nil _

/-- A text put behind the stem makes the stem longer. -/
theorem StemAt.append {t stem returns rest : Text} {before : List Text}
    (h : StemAt t before stem returns rest) {x : Text} (hx : '\n' ∉ x)
    (hlast : (stem ++ x).getLast? ≠ some '\r') :
    StemAt (terminated before ++ stem ++ (x ++ (returns ++ rest))) before (stem ++ x) returns
      rest where
  text_eq := by simp only [List.append_assoc]
  before_whole := h.before_whole
  piece_whole hmem := by
    have hpiece := h.piece_whole
    simp only [List.mem_append, not_or] at hmem hpiece
    rcases hmem with (hs | hmem) | hr
    · exact hpiece.1 hs
    · exact hx hmem
    · exact hpiece.2 hr
  rest_breaks := h.rest_breaks
  stem_last := hlast
  returns_only := h.returns_only

/-! ### Lines of a file -/

/-- The last piece is a line only if it is not empty, and it keeps its carriage return. -/
theorem linesOfPieces_concat (ls : List Text) (last : Text) :
    linesOfPieces (ls ++ [last]) = ls.map dropReturn ++ if last.isEmpty then [] else [last] := by
  induction ls with
  | nil => rfl
  | cons l ls ih =>
    rw [List.map_cons, List.cons_append, List.cons_append, ← ih]
    cases ls with
    | nil => rfl
    | cons m ms => rfl

/-- Whole lines are the lines of their file, less a carriage return each. -/
theorem fileLines_terminated {ls : List Text} (h : ∀ l ∈ ls, '\n' ∉ l) :
    fileLines (terminated ls) = ls.map dropReturn := by
  have hp : pieces (terminated ls) = ls ++ [[]] := by
    simpa [pieces] using pieces_terminated_append h []
  rw [fileLines, hp, linesOfPieces_concat]
  exact List.append_nil _

/-- Whole lines that do not end in carriage returns are the lines of their file. -/
theorem fileLines_terminated_eq_self {ls : List Text} (h : ∀ l ∈ ls, '\n' ∉ l)
    (hlast : ∀ l ∈ ls, l.getLast? ≠ some '\r') : fileLines (terminated ls) = ls := by
  rw [fileLines_terminated h, map_dropReturn_eq_self hlast]

/-- The lines of a file are its first pieces, less a carriage return each. -/
theorem fileLines_pieces (t : Text) :
    ∃ ps rest, pieces t = ps ++ rest ∧
      List.Forall₂ (fun l piece => piece = l ∨ piece = l ++ ['\r']) (fileLines t) ps := by
  unfold fileLines
  fun_induction linesOfPieces (pieces t) with
  | case1 => exact ⟨[], [], rfl, .nil⟩
  | case2 piece h => exact ⟨[], [piece], rfl, .nil⟩
  | case3 piece h => exact ⟨[piece], [], rfl, .cons (.inl rfl) .nil⟩
  | case4 piece ps h ih =>
    obtain ⟨qs, rest, rfl, hl⟩ := ih
    exact ⟨piece :: qs, rest, rfl, .cons (eq_dropReturn_or piece) hl⟩

/-- A line of a file holds no line feed. -/
theorem notMem_of_mem_fileLines {t l : Text} (h : l ∈ fileLines t) : '\n' ∉ l := by
  obtain ⟨ps, rest, hps, hlines⟩ := fileLines_pieces t
  obtain ⟨i, hi, rfl⟩ := List.getElem_of_mem h
  have hp : i < ps.length := hlines.length_eq ▸ hi
  have hpiece : '\n' ∉ ps[i] := by
    apply notMem_of_mem_pieces (t := t)
    rw [hps]
    exact List.mem_append_left _ (List.getElem_mem hp)
  intro hmem
  apply hpiece
  -- the line is the piece, or the piece less its last character
  rcases hlines.get hi hp with hl | hl
  · rw [List.get_eq_getElem, List.get_eq_getElem] at hl
    rwa [hl]
  · rw [List.get_eq_getElem, List.get_eq_getElem] at hl
    rw [hl]
    exact List.mem_append_left _ hmem

end Semicolon.Text
