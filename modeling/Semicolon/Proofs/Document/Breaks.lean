import Semicolon.Proofs.Document.Insertions

/-!
# Document — line breaks and terminators at a place

A line break typed at a place ends the line with what stood in front of the place, and a terminator
goes in front of the carriage returns of the line that is left.

* `Splits.remove_break`: unless a carriage return stands in front of the place, the line break is
  found again where it was typed.
* `insert_terminator` and `remove_terminator`: where the terminator goes, and when it is found
  again.
* `LeftAt` and `TerminatedAt`: the line of a place as a line break leaves it
  (`Splits.leftAt_break`), and with its terminator.
-/

namespace Semicolon.Document
open Text

/-- A line break, of one character or of two. -/
def IsLineBreak (t : Text) : Prop := t = ['\n'] ∨ t = ['\r', '\n']

/-- A line break is a line feed behind at most one carriage return. -/
theorem IsLineBreak.exists_returns {nl : Text} (h : IsLineBreak nl) :
    ∃ returns, nl = returns ++ ['\n'] ∧ IsReturns returns ∧ returns.dropLast = [] := by
  rcases h with rfl | rfl
  · exact ⟨[], rfl, List.forall_mem_nil _, rfl⟩
  · exact ⟨['\r'], rfl, by simp [IsReturns], rfl⟩

section

variable {d : Document} {p : Position} {before : List Text} {left right nl returns : Text}

/-- The text behind a line break that was typed at a place. -/
theorem Splits.pieceAt_break (h : d.Splits p before left right) (hr : IsReturns returns) :
    PieceAt (terminated before ++ left ++ (returns ++ ['\n'] ++ right)) before (left ++ returns)
      ('\n' :: right) where
  text_eq := by simp
  before_whole := h.before_whole
  piece_whole hmem := by
    rcases List.mem_append.mp hmem with hl | hb
    · exact h.left_whole hl
    · exact absurd (hr _ hb) (by decide)
  rest_breaks := .inr ⟨right, rfl⟩

/-- A line break is found again where it was typed. -/
theorem Splits.remove_break (h : d.Splits p before left right)
    (hleft : left.getLast? ≠ some '\r') (hnl : IsLineBreak nl) :
    ({ d with text := terminated before ++ left ++ (nl ++ right) } : Document).remove p nl = d := by
  obtain ⟨returns, rfl, hr, -⟩ := hnl.exists_returns
  have hstem : StemAt (terminated before ++ left ++ (returns ++ ['\n'] ++ right)) before left
      returns ('\n' :: right) := ⟨h.pieceAt_break hr, hleft, hr⟩
  obtain ⟨line, column⟩ := p
  obtain rfl : line = before.length := h.line_eq
  have hcut : Document.Cuts
      { d with text := terminated before ++ left ++ (returns ++ ['\n'] ++ right) }
      ⟨before.length, column⟩ (terminated before ++ left) (returns ++ '\n' :: right) :=
    cuts_behind_stem hstem h.left_le
  rw [List.append_cons returns '\n' right] at hcut
  rw [hcut.remove_eq, ← h.cuts.text_eq]

end

section

variable {d d' : Document} {before : List Text} {stem returns rest : Text} {column : Nat}

/-- A terminator goes in front of the carriage returns of its line. -/
theorem insert_terminator (h : StemAt d.text before stem returns rest)
    (hc : stem.length ≤ column) (hd : d.insert ⟨before.length, column⟩ [';'] = .ok d') :
    d' = { d with text := terminated before ++ stem ++ ([';'] ++ (returns ++ rest)) } := by
  rw [(cuts_behind_stem h hc).insert_eq (check?_of_insert hd)] at hd
  cases hd
  rfl

/-- The terminator ends the stem of its line. -/
theorem stemAt_terminator (h : StemAt d.text before stem returns rest) :
    StemAt (terminated before ++ stem ++ ([';'] ++ (returns ++ rest))) before (stem ++ [';'])
      returns rest :=
  h.append (by decide) (by simp)

/-- A terminator that went right behind the stem is found again. -/
theorem remove_terminator (h : StemAt d.text before stem returns rest)
    (hd : d.insert ⟨before.length, stem.length⟩ [';'] = .ok d') :
    d'.remove ⟨before.length, stem.length⟩ [';'] = d := by
  have hstem : '\n' ∉ stem := fun hmem => h.piece_whole (List.mem_append_left _ hmem)
  have htext : d.text = terminated before ++ stem ++ (returns ++ rest) := by
    rw [h.text_eq]
    simp only [List.append_assoc]
  rw [insert_terminator h (Nat.le_refl _) hd]
  exact remove_of_cut h.before_whole hstem h.stem_last htext [';']

end

/-! ### The line that was left -/

/-- The text of the line reaches no further than the place; carriage returns may stand behind it. -/
def LeftAt (d : Document) (p : Position) : Prop :=
  ∃ before stem returns rest, p.line = before.length ∧ stem.length ≤ p.column ∧
    StemAt d.text before stem returns rest

/-- The text of the line reaches no further than the place, and a terminator stands behind the
text. -/
def TerminatedAt (d : Document) (p : Position) : Prop :=
  ∃ before stem returns rest, p.line = before.length ∧ stem.length ≤ p.column ∧
    StemAt d.text before (stem ++ [';']) returns rest

/-- A line break typed at a place leaves the line there. -/
theorem Splits.leftAt_break {d : Document} {p : Position} {before : List Text}
    {left right nl : Text} (h : d.Splits p before left right) (hnl : IsLineBreak nl) :
    LeftAt { d with text := terminated before ++ left ++ (nl ++ right) } p := by
  obtain ⟨returns, rfl, hr, -⟩ := hnl.exists_returns
  -- `left` may end in carriage returns of its own, and they join those of the line break
  obtain ⟨stem, rs, rfl, hs, hrs⟩ := exists_stem left
  have hpiece := h.pieceAt_break hr
  rw [List.append_assoc stem rs returns] at hpiece
  have hlength : stem.length ≤ (stem ++ rs).length := (List.sublist_append_left stem rs).length_le
  exact ⟨before, stem, rs ++ returns, _, h.line_eq, hlength.trans h.left_le, hpiece, hs,
    List.forall_mem_append.mpr ⟨hrs, hr⟩⟩

end Semicolon.Document
