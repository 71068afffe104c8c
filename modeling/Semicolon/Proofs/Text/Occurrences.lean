import Semicolon.Proofs.Text.Marks

/-!
# Text — how often a mark stands

* `occurrences_eq_zero_iff`: a mark stands nowhere exactly if it is no part of the text.
* `occurrences_le_of_isInfix`: it stands no more often in a part of a text than in the text.
* `lt_occurrences`: a place of the mark in front of a part is one more.
* `occurrences_append`: a mark of two characters stands on no seam behind which the first of them
  does not stand.
-/

namespace Semicolon.Text

/-- The number of places where the mark stands. -/
def occurrences (mark : Text) : Text → Nat
  | []     => if mark.isEmpty then 1 else 0
  | c :: t => (if mark.isPrefixOf (c :: t) then 1 else 0) + occurrences mark t

variable {mark s t : Text}

/-- A mark stands nowhere exactly if it is no part of the text. -/
theorem occurrences_eq_zero_iff : occurrences mark t = 0 ↔ ¬ mark <:+: t := by
  induction t with
  | nil => cases mark <;> simp [occurrences]
  | cons c t ih =>
    rw [occurrences, Nat.add_eq_zero_iff, ih, List.infix_cons_iff, ← List.isPrefixOf_iff_prefix,
      not_or]
    simp

/-- A text that is put in front takes no mark away. -/
theorem occurrences_append_left_le (mark s t : Text) :
    occurrences mark t ≤ occurrences mark (s ++ t) := by
  induction s with
  | nil => exact Nat.le_refl _
  | cons c s ih => exact ih.trans (Nat.le_add_left _ _)

/-- Nor does a text that is put behind. -/
theorem occurrences_append_right_le (mark s t : Text) :
    occurrences mark s ≤ occurrences mark (s ++ t) := by
  induction s with
  | nil => cases mark <;> cases t <;> simp [occurrences]
  | cons c s ih =>
    rw [List.cons_append, occurrences, occurrences]
    refine Nat.add_le_add ?_ ih
    split
    · next hs =>
      -- what begins with the mark still does with more behind it
      have hst : mark <+: c :: (s ++ t) :=
        (List.isPrefixOf_iff_prefix.mp hs).trans (List.prefix_append (c :: s) t)
      rw [if_pos (List.isPrefixOf_iff_prefix.mpr hst)]
    · exact Nat.zero_le _

/-- A mark stands no more often in a part of a text than in all of it. -/
theorem occurrences_le_of_isInfix (h : s <:+: t) : occurrences mark s ≤ occurrences mark t := by
  obtain ⟨a, b, rfl⟩ := h
  exact (occurrences_append_left_le mark a s).trans (occurrences_append_right_le mark (a ++ s) b)

/-- The mark in front of a text stands once more. -/
theorem lt_occurrences (hmark : mark ≠ []) (t : Text) :
    occurrences mark t < occurrences mark (mark ++ t) := by
  obtain ⟨m, rest, rfl⟩ := List.exists_cons_of_ne_nil hmark
  have hprefix : (m :: rest).isPrefixOf (m :: (rest ++ t)) = true :=
    List.isPrefixOf_iff_prefix.mpr (List.prefix_append (m :: rest) t)
  have hle := occurrences_append_left_le (m :: rest) rest t
  rw [List.cons_append, occurrences, if_pos hprefix]
  omega

/-- No mark of two characters stands on the seam, unless its first one stands in front of it. -/
theorem occurrences_append {a : Char} (b : Char) (h : s.getLast? ≠ some a) (t : Text) :
    occurrences [a, b] (s ++ t) = occurrences [a, b] s + occurrences [a, b] t := by
  induction s with
  | nil => simp [occurrences]
  | cons c s ih =>
    cases s with
    | nil =>
      have hne : a ≠ c := by simpa [eq_comm] using h
      simp [occurrences, hne]
    | cons d s =>
      rw [List.getLast?_cons_cons] at h
      -- two characters in front of the seam, the mark does not reach it
      have hseam : [a, b].isPrefixOf (c :: (d :: s ++ t)) = [a, b].isPrefixOf (c :: d :: s) := by
        simp [List.isPrefixOf]
      rw [List.cons_append, occurrences, hseam, ih h, ← Nat.add_assoc]
      rfl

end Semicolon.Text
