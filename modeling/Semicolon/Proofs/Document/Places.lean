import Semicolon.Document
import Semicolon.Proofs.Text.Bytes
import Semicolon.Proofs.Text.Lines

/-!
# Document — where a place cuts the text

`d.Cuts p front behind` says that the byte offset of the place `p` lies between `front` and
`behind`.

* `cuts_of_stemAt`: a place cuts its piece behind its column, but in front of the carriage returns
  at the end.
* `exists_splits`: every place that an edit may use splits a line.
* `Cuts.insert_eq` and `Cuts.remove_eq`: what an edit does to the two sides of a cut.
* `notBehindReturn_of_lineEnd` and `notBehindReturn_of_paired`: ends of lines, and all places of a
  text whose carriage returns belong to line breaks, do not follow a carriage return.
-/

namespace Semicolon.Document
open Text

/-! ### Offsets -/

/-- Whole lines in front of a text move its offsets by their bytes. -/
theorem offsetInPieces_append (ls : List Text) {ps : List Text} (hps : ps ≠ []) (k column : Nat) :
    offsetInPieces (ls ++ ps) (ls.length + k) column =
      byteSize (terminated ls) + offsetInPieces ps k column := by
  induction ls with
  | nil => simp
  | cons l ls ih =>
    obtain ⟨q, qs, hq⟩ := List.exists_cons_of_ne_nil (List.append_ne_nil_of_right_ne_nil ls hps)
    -- `l` is not the last piece, so its line feed counts
    have hstep : offsetInPieces (l :: (ls ++ ps)) (ls.length + k + 1) column =
        byteSize l + 1 + offsetInPieces (ls ++ ps) (ls.length + k) column := by
      rw [hq]
      rfl
    have hbreak : byteSize ('\n' :: terminated ls) = 1 + byteSize (terminated ls) := rfl
    rw [List.cons_append, List.length_cons, Nat.add_right_comm, hstep, ih, terminated_cons,
      byteSize_append, hbreak]
    omega

section

variable {d : Document} {before : List Text} {stem returns rest : Text}

/-- The text of a line is its stem and all carriage returns at its end but one. -/
theorem line?_of_stemAt (h : StemAt d.text before stem returns rest) :
    d.line? before.length = some (stem ++ returns.dropLast) := by
  rw [line?, h.getElem?, Option.map_some, dropReturn_append h.stem_last h.returns_only]

/-- The offset of a place counts the lines in front of it and the stem up to its column, but no
carriage return at the end. -/
theorem offsetAt_of_stemAt (h : StemAt d.text before stem returns rest) (column : Nat) :
    d.offsetAt ⟨before.length, column⟩ = byteSize (terminated before ++ stem.take column) := by
  obtain ⟨ps, hps⟩ := h.pieces_eq
  have happend := offsetInPieces_append before (List.cons_ne_nil (stem ++ returns) ps) 0 column
  have hcolumn : columnOffset (stem ++ returns) column = byteSize (stem.take column) := by
    have hstem : dropEndWhile (· = '\r') (stem ++ returns) = stem :=
      withoutReturns_append h.stem_last h.returns_only
    rw [columnOffset, hstem]
  rw [offsetAt, hps, byteSize_append, ← hcolumn]
  exact happend

end

/-! ### Cuts -/

/-- The byte offset of the place lies between `front` and `behind`. -/
structure Cuts (d : Document) (p : Position) (front behind : Text) : Prop where
  text_eq : d.text = front ++ behind
  offset_eq : d.offsetAt p = byteSize front

namespace Cuts

variable {d : Document} {p : Position} {front behind : Text}

/-- The text in front of the offset of a place is the first side of its cut. -/
theorem takeBytes_eq (h : d.Cuts p front behind) : d.text.takeBytes (d.offsetAt p) = front := by
  rw [h.text_eq, h.offset_eq, takeBytes_byteSize_append]

/-- The text behind it is the other side. -/
theorem dropBytes_eq (h : d.Cuts p front behind) : d.text.dropBytes (d.offsetAt p) = behind := by
  rw [h.text_eq, h.offset_eq, dropBytes_byteSize_append]

/-- What is inserted at a place goes between the two sides. -/
theorem insert_eq (h : d.Cuts p front behind) (hp : d.check? p = none) (x : Text) :
    d.insert p x = .ok { d with text := front ++ (x ++ behind) } := by
  rw [insert, hp]
  simp only [insertBytes, h.takeBytes_eq, h.dropBytes_eq, List.append_assoc]

/-- A text that stands behind the cut is found there and removed. -/
theorem remove_eq {x : Text} (h : d.Cuts p front (x ++ behind)) :
    d.remove p x = { d with text := front ++ behind } := by
  have hx : startsWith (x ++ behind) x = true := by simp [startsWith]
  rw [remove, h.dropBytes_eq, if_pos hx, h.takeBytes_eq, List.drop_left]

end Cuts

/-- A place cuts its piece behind its column, but in front of the carriage returns at the end. -/
theorem cuts_of_stemAt {d : Document} {before : List Text} {stem returns rest : Text}
    (h : StemAt d.text before stem returns rest) (column : Nat) :
    d.Cuts ⟨before.length, column⟩ (terminated before ++ stem.take column)
      (stem.drop column ++ (returns ++ rest)) := by
  constructor
  · rw [h.text_eq, List.append_assoc, List.append_assoc, ← List.append_assoc (stem.take column),
      List.take_append_drop]
  · exact offsetAt_of_stemAt h column

/-- A place behind the stem of its piece cuts in front of the carriage returns. -/
theorem cuts_behind_stem {d : Document} {before : List Text} {stem returns rest : Text}
    (h : StemAt d.text before stem returns rest) {column : Nat} (hc : stem.length ≤ column) :
    d.Cuts ⟨before.length, column⟩ (terminated before ++ stem) (returns ++ rest) := by
  have hcut := cuts_of_stemAt h column
  rwa [List.take_of_length_le hc, List.drop_of_length_le hc] at hcut

/-! ### Places that an edit may use -/

/-- The lines of a document are numbered without a gap. -/
theorem exists_line?_iff {d : Document} {k : Nat} :
    (∃ line, d.line? k = some line) ↔ k < d.lineCount := by
  rw [← Option.isSome_iff_exists, line?, Option.isSome_map, lineCount]
  simp

/-- The places that an edit may use lie on a line, and not past its end. -/
theorem check?_eq_none_iff {d : Document} {p : Position} :
    d.check? p = none ↔ ∃ line, d.line? p.line = some line ∧ p.column ≤ line.length := by
  rw [check?]
  cases d.line? p.line with
  | none => simp
  | some line => by_cases h : p.column ≤ line.length <;> simp [h]

/-- The places that an edit may use, by the number of lines and the length of each. -/
theorem check?_eq_none_iff_le {d : Document} {p : Position} :
    d.check? p = none ↔ p.line < d.lineCount ∧ p.column ≤ d.lineLength p.line := by
  rw [check?_eq_none_iff, ← exists_line?_iff]
  constructor
  · rintro ⟨line, hline, hcolumn⟩
    refine ⟨⟨line, hline⟩, ?_⟩
    rwa [lineLength, hline]
  · rintro ⟨⟨line, hline⟩, hcolumn⟩
    rw [lineLength, hline] at hcolumn
    exact ⟨line, hline, hcolumn⟩

/-- An edit may use the places of a line up to its end. -/
theorem check?_of_stemAt {d : Document} {before : List Text} {stem returns rest : Text}
    (h : StemAt d.text before stem returns rest) {column : Nat}
    (hc : column ≤ (stem ++ returns.dropLast).length) : d.check? ⟨before.length, column⟩ = none :=
  check?_eq_none_iff.mpr ⟨_, line?_of_stemAt h, hc⟩

/-- A line of the document stands behind as many lines as its number says. -/
theorem exists_stemAt_of_line? {d : Document} {k : Nat} {line : Text}
    (h : d.line? k = some line) :
    ∃ before stem returns rest, k = before.length ∧ line = stem ++ returns.dropLast ∧
      StemAt d.text before stem returns rest := by
  obtain ⟨piece, hpiece, rfl⟩ := Option.map_eq_some_iff.mp h
  obtain ⟨rest, hp⟩ := exists_pieceAt hpiece
  obtain ⟨stem, returns, rfl, hs⟩ := hp.exists_stemAt
  have hk := (List.getElem?_eq_some_iff.mp hpiece).1
  -- `before` are the first `k` pieces, so there are `k` of them
  have hlength := List.length_take_of_le (Nat.le_of_lt hk)
  exact ⟨_, stem, returns, rest, hlength.symm,
    dropReturn_append hs.stem_last hs.returns_only, hs⟩

/-- The place splits a line that stands behind the lines `before` into `left` and the rest. -/
structure Splits (d : Document) (p : Position) (before : List Text) (left right : Text) : Prop where
  line_eq : p.line = before.length
  before_whole : ∀ l ∈ before, '\n' ∉ l
  left_whole : '\n' ∉ left
  left_le : left.length ≤ p.column
  cuts : d.Cuts p (terminated before ++ left) right

/-- A place splits the stem of its line at its column. -/
theorem splits_of_stemAt {d : Document} {before : List Text} {stem returns rest : Text}
    (h : StemAt d.text before stem returns rest) (column : Nat) :
    d.Splits ⟨before.length, column⟩ before (stem.take column)
      (stem.drop column ++ (returns ++ rest)) where
  line_eq := rfl
  before_whole := h.before_whole
  left_whole hmem := h.piece_whole (List.mem_append_left _ (List.mem_of_mem_take hmem))
  left_le := List.length_take_le _ _
  cuts := cuts_of_stemAt h column

/-- A place behind the stem of its line splits off the carriage returns. -/
theorem splits_behind_stem {d : Document} {before : List Text} {stem returns rest : Text}
    (h : StemAt d.text before stem returns rest) {column : Nat} (hc : stem.length ≤ column) :
    d.Splits ⟨before.length, column⟩ before stem (returns ++ rest) := by
  have hsplits := splits_of_stemAt h column
  rwa [List.take_of_length_le hc, List.drop_of_length_le hc] at hsplits

/-- A place on a line of the document splits the stem of the line. -/
theorem exists_splits_of_line? {d : Document} {p : Position} {line : Text}
    (h : d.line? p.line = some line) :
    ∃ before stem returns rest, p.line = before.length ∧ line = stem ++ returns.dropLast ∧
      StemAt d.text before stem returns rest ∧
      d.Splits p before (stem.take p.column) (stem.drop p.column ++ (returns ++ rest)) := by
  obtain ⟨before, stem, returns, rest, hk, hline, hstem⟩ := exists_stemAt_of_line? h
  have hsplits := splits_of_stemAt hstem p.column
  rw [← hk] at hsplits
  exact ⟨before, stem, returns, rest, hk, hline, hstem, hsplits⟩

/-- Every place that an edit may use splits a line. -/
theorem exists_splits {d : Document} {p : Position} (hp : d.check? p = none) :
    ∃ before left right, d.Splits p before left right := by
  obtain ⟨line, hline, -⟩ := check?_eq_none_iff.mp hp
  obtain ⟨before, stem, returns, rest, -, -, -, hsplits⟩ := exists_splits_of_line? hline
  exact ⟨before, _, _, hsplits⟩

/-! ### Places that do not follow a carriage return -/

/-- No carriage return stands right in front of the place. -/
def NotBehindReturn (d : Document) (p : Position) : Prop :=
  (d.text.takeBytes (d.offsetAt p)).getLast? ≠ some '\r'

/-- What stands right in front of a place is the last character of its line up to there. -/
theorem Splits.notBehindReturn_iff {d : Document} {p : Position} {before : List Text}
    {left right : Text} (h : d.Splits p before left right) :
    d.NotBehindReturn p ↔ left.getLast? ≠ some '\r' := by
  rw [NotBehindReturn, h.cuts.takeBytes_eq, List.getLast?_append]
  cases left.getLast? with
  | some c => rfl
  | none =>
    -- at the start of a line stands the line feed of the line before, or nothing
    rcases getLast?_terminated before with hnil | hlast
    · simp [hnil]
    · simp [hlast]

/-- The end of a line does not follow a carriage return. -/
theorem notBehindReturn_of_lineEnd {d : Document} {p : Position} (hp : d.check? p = none)
    (hend : p.column = d.lineLength p.line) : d.NotBehindReturn p := by
  obtain ⟨line, hline, -⟩ := check?_eq_none_iff.mp hp
  obtain ⟨before, stem, returns, rest, -, rfl, h, hsplits⟩ := exists_splits_of_line? hline
  have hwhole : stem.take p.column = stem := by
    apply List.take_of_length_le
    rw [hend, lineLength, hline]
    simp
  rw [hsplits.notBehindReturn_iff, hwhole]
  exact h.stem_last

/-- If every carriage return belongs to a line break, no place of a line follows one. -/
theorem notBehindReturn_of_paired {d : Document} {p : Position} (hp : d.check? p = none)
    (hpaired : ReturnsPaired d.text) : d.NotBehindReturn p := by
  obtain ⟨line, hline, -⟩ := check?_eq_none_iff.mp hp
  obtain ⟨before, stem, returns, rest, -, rfl, h, hsplits⟩ := exists_splits_of_line? hline
  rw [hsplits.notBehindReturn_iff]
  intro hlast
  obtain ⟨u, hu⟩ := List.getLast?_eq_some_iff.mp hlast
  obtain ⟨c, hc⟩ := hpaired (terminated before ++ u)
    (stem.drop p.column ++ (returns ++ rest)) (by rw [hsplits.cuts.text_eq, hu]; simp)
  -- behind the carriage return the stem is over, or a character of the stem follows
  cases hdrop : stem.drop p.column with
  | nil =>
    rw [List.take_of_length_le (List.drop_eq_nil_iff.mp hdrop)] at hlast
    exact h.stem_last hlast
  | cons x xs =>
    rw [hdrop, List.cons_append, List.cons.injEq] at hc
    have hmem : x ∈ stem.drop p.column := by
      rw [hdrop]
      exact List.mem_cons_self
    rw [hc.1] at hmem
    exact h.piece_whole (List.mem_append_left _ (List.mem_of_mem_drop hmem))

end Semicolon.Document
