import Semicolon.Proofs.Document.Insertions

/-!
# Document — the list of its lines

A document is one text, and all its operations find a line in it anew.  Seen from outside it is a
list of lines.

* `lines_eq`: the lines are the pieces of the text, less a carriage return at the end of each.
* `lines_of_text`: the lines around a place, read off the text on its two sides.

**Main result** (`insert_splices_lines`).  Where carriage returns belong to line breaks, an
insertion puts the lines of the new text between the two halves of one line of the list, and leaves
all others as they are.
-/

namespace Semicolon.Document
open Text

/-- The lines of the document, in order. -/
def lines (d : Document) : List Text := (List.range d.lineCount).filterMap d.line?

/-- The items of a list, looked up one after the other, are the list. -/
theorem filterMap_range_getElem? {α : Type} (xs : List α) :
    (List.range xs.length).filterMap (xs[·]?) = xs := by
  induction xs with
  | nil => rfl
  | cons x xs ih =>
    rw [List.length_cons, List.range_succ_eq_map, List.filterMap_cons, List.filterMap_map]
    exact congrArg (x :: ·) ih

/-- The lines are the pieces of the text, less a carriage return each. -/
theorem lines_eq (d : Document) : d.lines = (pieces d.text).map dropReturn := by
  have hline : d.line? = fun k => (pieces d.text)[k]?.map dropReturn := rfl
  rw [lines, hline, ← List.map_filterMap, lineCount, filterMap_range_getElem?]

section

variable {d : Document} {before ps : List Text} {left right first : Text}

/-- The lines around a place that stands behind the characters `left` of a line. -/
theorem lines_of_text (hbefore : ∀ l ∈ before, '\n' ∉ l) (hleft : '\n' ∉ left)
    (hlast : left.getLast? ≠ some '\r') (htext : d.text = terminated before ++ left ++ right)
    (hright : pieces right = first :: ps) :
    d.lines = before.map dropReturn ++ (left ++ dropReturn first) :: ps.map dropReturn := by
  rw [lines_eq, htext, List.append_assoc, pieces_terminated_append hbefore,
    pieces_prepend hleft hright, List.map_append, List.map_cons, dropReturn_append_of_last hlast]

/-- The list of lines, taken apart at one of them. -/
theorem lines_apart {line : Text}
    (h : d.lines = before.map dropReturn ++ line :: ps.map dropReturn) :
    d.lines[before.length]? = some line ∧ d.lines.take before.length = before.map dropReturn ∧
      d.lines.drop (before.length + 1) = ps.map dropReturn := by
  have hlength : before.length = (before.map dropReturn).length := (List.length_map _).symm
  rw [h, hlength]
  refine ⟨?_, List.take_left, ?_⟩
  · rw [List.getElem?_append_right (Nat.le_refl _), Nat.sub_self, List.getElem?_cons_zero]
  · rw [← List.drop_drop, List.drop_left, List.drop_one, List.tail_cons]

end

/-- An insertion puts the lines of the text between the two halves of a line. -/
theorem insert_splices_lines {d : Document} {p : Position} {t : Text} (hd : ReturnsPaired d.text)
    (hp : d.check? p = none) (ht : '\r' ∉ t) :
    ∃ d' line, d.insert p t = .ok d' ∧ d.lines[p.line]? = some line ∧
      (∀ t₀, pieces t = [t₀] → d'.lines = d.lines.take p.line ++
        (line.take p.column ++ t₀ ++ line.drop p.column) :: d.lines.drop (p.line + 1)) ∧
      (∀ t₀ ts tₖ, pieces t = t₀ :: (ts ++ [tₖ]) → d'.lines = d.lines.take p.line ++
        (line.take p.column ++ t₀) :: (ts ++ (tₖ ++ line.drop p.column) ::
          d.lines.drop (p.line + 1))) ∧
      ReturnsPaired d'.text := by
  obtain ⟨before, left, right, rfl, hbefore, hleft, hlast, hcut⟩ := exists_cut_of_paired hp hd
  obtain ⟨first, ps, hright⟩ := List.exists_cons_of_ne_nil (pieces_ne_nil right)
  have hinsert := hcut.insert_eq hp t
  obtain ⟨hline, htake, hdrop⟩ :=
    lines_apart (lines_of_text hbefore hleft hlast hcut.text_eq hright)
  -- no piece of `t` ends in a carriage return, so the line ends as it did
  have hpieces : ∀ s ∈ pieces t, s.getLast? ≠ some '\r' := fun s hs hreturn =>
    ht (mem_of_mem_pieces hs (List.mem_of_getLast? hreturn))
  refine ⟨_, _, hinsert, hline, fun t₀ h₀ => ?_, fun t₀ ts tₖ h₀ => ?_,
    (insert_of_paired hd (returnsPaired_of_notMem ht) hinsert).1⟩
  · -- a text of one piece lengthens the line of the place
    have hpieces₀ : pieces t = [] ++ [t₀] := h₀
    have hjoined : pieces (t ++ right) = (t₀ ++ first) :: ps := pieces_append hpieces₀ hright
    rw [lines_of_text hbefore hleft hlast rfl hjoined, htake, hdrop, List.take_left, List.drop_left,
      dropReturn_append_of_last (hpieces t₀ (by simp [h₀])), List.append_assoc]
  · -- the first piece ends one half of the line, and the last one begins the other half
    have hpieces₀ : pieces t = t₀ :: ts ++ [tₖ] := h₀
    have hjoined : pieces (t ++ right) = t₀ :: (ts ++ (tₖ ++ first) :: ps) :=
      pieces_append hpieces₀ hright
    have hmiddle : ts.map dropReturn = ts :=
      map_dropReturn_eq_self fun s hs => hpieces s (by simp [h₀, hs])
    rw [lines_of_text hbefore hleft hlast rfl hjoined, htake, hdrop, List.take_left, List.drop_left,
      dropReturn_eq_self (hpieces t₀ (by simp [h₀])), List.map_append, List.map_cons, hmiddle,
      dropReturn_append_of_last (hpieces tₖ (by simp [h₀]))]

/-- Two lines, each with a carriage return. -/
def twoLines : Document := ⟨"java", "int á\r\nfoo()\r\n".toList⟩

/-- The end of a line stands in front of its carriage return, and that is where lines are put in. -/
theorem insert_splices_lines_of_twoLines :
    ReturnsPaired twoLines.text ∧ twoLines.check? ⟨0, 5⟩ = none ∧
      '\r' ∉ " = 1\n// é\n".toList ∧
      ∃ d, twoLines.insert ⟨0, 5⟩ " = 1\n// é\n".toList = .ok d ∧
        d.lines = ["int á = 1".toList, "// é".toList, [], "foo()".toList, []] ∧
        ReturnsPaired d.text := by
  have hd : ReturnsPaired twoLines.text := by decide
  have hp : twoLines.check? ⟨0, 5⟩ = none := by decide
  have ht : '\r' ∉ " = 1\n// é\n".toList := by decide
  obtain ⟨d, line, hinsert, hline, -, hlines, hpaired⟩ := insert_splices_lines hd hp ht
  obtain rfl : "int á".toList = line := Option.some.inj hline
  exact ⟨hd, hp, ht, d, hinsert, hlines " = 1".toList ["// é".toList] [] rfl, hpaired⟩

end Semicolon.Document
