import Mathlib.Data.List.Infix
import Semicolon.Proofs.Document.Places

/-!
# Document — the offsets of all places

A place may lie anywhere, also past the end of its line or of the text.  Places are ordered by line
and then by column.

* `offsetInPieces_mono`: places in order have offsets in order.
* `exists_cut`: every place cuts the text between two characters, and never inside a line break.
* `exists_stemAt_of_lineText`: the text of a line as it stands in the document, up to the carriage
  returns at its end.

**Main results.**  Offsets keep the order of places and are safe to cut at (`offsetAt_ordered`).
Between the start of a line and one of its columns stands the line up to that column, as far as no
carriage return ends the line; behind such carriage returns no column has an offset
(`line_between_offsets`).
-/

namespace Semicolon

/-- A place comes before the places of later lines and those further right on its own line. -/
instance : LE Position :=
  ⟨fun p q => p.line < q.line ∨ p.line = q.line ∧ p.column ≤ q.column⟩

namespace Document
open Text

/-! ### The order of places -/

/-- A place further right on a line has no smaller offset. -/
theorem columnOffset_mono (piece : Text) {column column' : Nat} (h : column ≤ column') :
    columnOffset piece column ≤ columnOffset piece column' :=
  byteSize_le_of_isPrefix (List.take_prefix_take_left h)

/-- No column of a line lies past its end. -/
theorem columnOffset_le (piece : Text) (column : Nat) :
    columnOffset piece column ≤ byteSize piece :=
  byteSize_le_of_isPrefix ((List.take_prefix _ _).trans (List.rdropWhile_prefix _ _))

/-- A place on a later line lies behind the first line. -/
theorem byteSize_le_offsetInPieces (piece : Text) (ps : List Text) (k column : Nat) :
    byteSize piece ≤ offsetInPieces (piece :: ps) (k + 1) column := by
  cases ps with
  | nil => exact Nat.le_refl _
  | cons p ps =>
    rw [offsetInPieces]
    omega

/-- Places in order have offsets in order. -/
theorem offsetInPieces_mono {ps : List Text} {k k' column column' : Nat}
    (h : k < k' ∨ k = k' ∧ column ≤ column') :
    offsetInPieces ps k column ≤ offsetInPieces ps k' column' := by
  fun_induction offsetInPieces ps k column generalizing k' with
  | case1 => exact Nat.zero_le _
  | case2 piece ps column =>
    cases k' with
    -- both places are on the first line
    | zero => exact columnOffset_mono piece (by omega)
    | succ k' =>
      exact (columnOffset_le piece column).trans (byteSize_le_offsetInPieces piece ps _ _)
  | case3 piece k column =>
    obtain ⟨k', rfl⟩ : ∃ n, k' = n + 1 := Nat.exists_eq_add_one.mpr (by omega)
    exact Nat.le_refl _
  | case4 piece p ps k column ih =>
    obtain ⟨k', rfl⟩ : ∃ n, k' = n + 1 := Nat.exists_eq_add_one.mpr (by omega)
    -- neither place is on the first line, and both count it
    rw [offsetInPieces]
    exact Nat.add_le_add_left (ih (by omega)) _

/-! ### Cuts at any place -/

/-- A place past the last line cuts at the end of the text. -/
theorem cuts_past_end {d : Document} {p : Position} (h : d.lineCount ≤ p.line) :
    d.Cuts p d.text [] := by
  obtain ⟨ls, last, hps⟩ := exists_last_piece d.text
  obtain ⟨htext, -, -⟩ := eq_terminated_append hps
  have hlength : d.lineCount = ls.length + 1 := by
    rw [lineCount, hps, List.length_append, List.length_singleton]
  obtain ⟨k, hk⟩ := Nat.exists_eq_add_of_le (hlength ▸ h)
  have hoffset := offsetInPieces_append ls (List.cons_ne_nil last []) (k + 1) p.column
  constructor
  · exact (List.append_nil d.text).symm
  · rw [offsetAt, hps, hk, Nat.add_assoc, Nat.add_comm 1 k, hoffset, htext, byteSize_append]
    rfl

/-- A carriage return stands in front of the cut, and its line feed behind. -/
def PartsBreak (front behind : Text) : Prop :=
  front.getLast? = some '\r' ∧ behind.head? = some '\n'

/-- Every place cuts the text between two characters, and not inside a line break. -/
theorem exists_cut (d : Document) (p : Position) :
    ∃ front behind, d.Cuts p front behind ∧ ¬ PartsBreak front behind := by
  by_cases hp : p.line < d.lineCount
  · obtain ⟨line, hline⟩ := exists_line?_iff.mpr hp
    obtain ⟨before, stem, returns, rest, -, -, h, hsplits⟩ := exists_splits_of_line? hline
    refine ⟨_, _, hsplits.cuts, ?_⟩
    rintro ⟨hreturn, hfeed⟩
    cases hdrop : stem.drop p.column with
    | nil =>
      -- in front of the cut stands the whole stem, which ends in no carriage return
      have hfront := hsplits.notBehindReturn_iff.mpr (by
        rw [List.take_of_length_le (List.drop_eq_nil_iff.mp hdrop)]
        exact h.stem_last)
      rw [NotBehindReturn, hsplits.cuts.takeBytes_eq] at hfront
      exact hfront hreturn
    | cons c cs =>
      -- the line feed behind the cut would be a character of the line
      rw [hdrop, List.cons_append, List.head?_cons, Option.some.injEq] at hfeed
      have hc : c ∈ stem := by
        apply List.mem_of_mem_drop (i := p.column)
        rw [hdrop]
        exact List.mem_cons_self
      exact h.piece_whole (List.mem_append_left _ (hfeed ▸ hc))
  · refine ⟨_, _, cuts_past_end (Nat.le_of_not_lt hp), ?_⟩
    rintro ⟨-, hfeed⟩
    cases hfeed

/-- Offsets keep the order of places, stay inside the text, and can be cut at without parting a
character or a line break. -/
theorem offsetAt_ordered (d : Document) {p q : Position} (h : p ≤ q) :
    d.offsetAt p ≤ d.offsetAt q ∧ d.offsetAt q ≤ byteSize d.text ∧
      ∃ front behind, d.Cuts p front behind ∧ ¬ PartsBreak front behind := by
  obtain ⟨front, behind, hcut, -⟩ := exists_cut d q
  refine ⟨offsetInPieces_mono h, ?_, exists_cut d p⟩
  rw [hcut.offset_eq, hcut.text_eq]
  exact byteSize_le_of_isPrefix (List.prefix_append front behind)

/-- Two lines, the first of which has a carriage return too many. -/
def surplusReturn : Document := ⟨"java", "é = 1\r\r\nfoo()\r".toList⟩

/-- Past the end of the first line the offset stays in front of all its carriage returns; past the
end of the text it is the end of the text. -/
theorem offsetAt_ordered_of_surplusReturn :
    (⟨0, 99⟩ : Position) ≤ ⟨7, 0⟩ ∧ surplusReturn.offsetAt ⟨0, 99⟩ = 6 ∧
      surplusReturn.offsetAt ⟨7, 0⟩ = 15 ∧
      surplusReturn.offsetAt ⟨7, 0⟩ ≤ byteSize surplusReturn.text ∧
      ∃ front behind, surplusReturn.Cuts ⟨0, 99⟩ front behind ∧ ¬ PartsBreak front behind := by
  have hle : (⟨0, 99⟩ : Position) ≤ ⟨7, 0⟩ := .inl (by decide)
  obtain ⟨-, hbound, hcut⟩ := offsetAt_ordered surplusReturn hle
  exact ⟨hle, by decide, by decide, hbound, hcut⟩

/-! ### The text of a line -/

/-- The text between two byte offsets. -/
def between (d : Document) (i j : Nat) : Text := (d.text.dropBytes i).takeBytes (j - i)

section

variable {d : Document} {k : Nat} {line : Text}

/-- The text of a line without the carriage returns at its end stands behind whole lines, and in
front of carriage returns. -/
theorem exists_stemAt_of_lineText (h : d.line? k = some line) :
    ∃ before returns rest, k = before.length ∧
      StemAt d.text before (withoutReturns line) returns rest := by
  obtain ⟨before, stem, returns, rest, hk, rfl, hstem⟩ := exists_stemAt_of_line? h
  have hreturns : IsReturns returns.dropLast := fun c hc =>
    hstem.returns_only c (List.dropLast_subset _ hc)
  rw [withoutReturns_append hstem.stem_last hreturns]
  exact ⟨before, returns, rest, hk, hstem⟩

/-- The offset of a column counts the bytes of its line up to there, but no carriage return at the
end. -/
theorem offsetAt_of_lineText (h : d.line? k = some line) (column : Nat) :
    d.offsetAt ⟨k, column⟩ = d.offsetAt ⟨k, 0⟩ + byteSize ((withoutReturns line).take column) := by
  obtain ⟨before, returns, rest, rfl, hstem⟩ := exists_stemAt_of_lineText h
  rw [offsetAt_of_stemAt hstem, offsetAt_of_stemAt hstem, List.take_zero, List.append_nil,
    byteSize_append]

/-- The text up to there is the line up to the column, less these carriage returns. -/
theorem between_of_lineText (h : d.line? k = some line) (column : Nat) :
    d.between (d.offsetAt ⟨k, 0⟩) (d.offsetAt ⟨k, column⟩) = (withoutReturns line).take column := by
  obtain ⟨before, returns, rest, rfl, hstem⟩ := exists_stemAt_of_lineText h
  have hbehind := (cuts_of_stemAt hstem 0).dropBytes_eq
  have hsplit : withoutReturns line ++ (returns ++ rest) = (withoutReturns line).take column ++
      ((withoutReturns line).drop column ++ (returns ++ rest)) := by
    rw [← List.append_assoc (List.take column _), List.take_append_drop]
  rw [between, hbehind, offsetAt_of_lineText h column, Nat.add_sub_cancel_left, List.drop_zero,
    hsplit, takeBytes_byteSize_append]

end

/-- Only up to the carriage returns at the end do columns count all bytes of the line. -/
theorem byteSize_take_withoutReturns_iff {line : Text} {column : Nat} (h : column ≤ line.length) :
    byteSize ((withoutReturns line).take column) = byteSize (line.take column) ↔
      column ≤ (withoutReturns line).length := by
  have hprefix := (withoutReturns_isPrefix line).take column
  have hlengths := Iff.intro (congrArg List.length) hprefix.eq_of_length
  rw [byteSize_eq_iff_of_isPrefix hprefix, hlengths, List.length_take, List.length_take_of_le h]
  omega

/-- Between the start of a line and one of its columns stands the line up to that column, but
without the carriage returns at its end: a column behind one of them has the offset in front of
them all. -/
theorem line_between_offsets {d : Document} {k : Nat} (hk : k < d.lineCount) :
    ∃ line, d.line? k = some line ∧
      (∀ column, d.offsetAt ⟨k, column⟩ =
          d.offsetAt ⟨k, 0⟩ + byteSize ((withoutReturns line).take column) ∧
        d.between (d.offsetAt ⟨k, 0⟩) (d.offsetAt ⟨k, column⟩) =
          (withoutReturns line).take column) ∧
      (∀ column ≤ line.length,
        (d.offsetAt ⟨k, column⟩ = d.offsetAt ⟨k, 0⟩ + byteSize (line.take column) ↔
          column ≤ (withoutReturns line).length)) ∧
      (d.between (d.offsetAt ⟨k, 0⟩) (d.offsetAt ⟨k, line.length⟩) = line ↔
        line.getLast? ≠ some '\r') := by
  obtain ⟨line, hline⟩ := exists_line?_iff.mpr hk
  refine ⟨line, hline, fun column => ⟨offsetAt_of_lineText hline column,
    between_of_lineText hline column⟩, fun column hcolumn => ?_, ?_⟩
  · rw [offsetAt_of_lineText hline, Nat.add_left_cancel_iff]
    exact byteSize_take_withoutReturns_iff hcolumn
  · have hlength := (withoutReturns_isPrefix line).length_le
    rw [between_of_lineText hline, List.take_of_length_le hlength]
    exact withoutReturns_eq_self_iff

/-- The first line ends behind its carriage return, and the offset of that end is in front of it. -/
theorem line_between_offsets_of_surplusReturn :
    0 < surplusReturn.lineCount ∧ surplusReturn.line? 0 = some "é = 1\r".toList ∧
      6 ≤ "é = 1\r".toList.length ∧
      surplusReturn.offsetAt ⟨0, 6⟩ ≠
        surplusReturn.offsetAt ⟨0, 0⟩ + byteSize ("é = 1\r".toList.take 6) ∧
      surplusReturn.between (surplusReturn.offsetAt ⟨0, 0⟩) (surplusReturn.offsetAt ⟨0, 5⟩) =
        "é = 1".toList := by
  have hk : 0 < surplusReturn.lineCount := by decide
  obtain ⟨line, hline, hcolumns, hwhole, -⟩ := line_between_offsets hk
  obtain rfl : "é = 1\r".toList = line := Option.some.inj hline
  have hcolumn : 6 ≤ "é = 1\r".toList.length := by decide
  exact ⟨hk, hline, hcolumn, fun h => absurd ((hwhole 6 hcolumn).mp h) (by decide),
    (hcolumns 5).2⟩

/-- The carriage return of a line is one of its characters and may be edited behind, but no offset
stands behind it. -/
theorem offset_short_of_return :
    (⟨"java", "a\r\r\n".toList⟩ : Document).line? 0 = some "a\r".toList ∧
      (⟨"java", "a\r\r\n".toList⟩ : Document).check? ⟨0, 2⟩ = none ∧
      (⟨"java", "a\r\r\n".toList⟩ : Document).offsetAt ⟨0, 2⟩ ≠
        (⟨"java", "a\r\r\n".toList⟩ : Document).offsetAt ⟨0, 0⟩ +
          byteSize ("a\r".toList.take 2) := by
  decide

end Document

end Semicolon
