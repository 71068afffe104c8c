import Mathlib.Data.List.DropRight
import Semicolon.Text.Blank

/-!
# Text — what trimming keeps

* `trim_append_cons`: blanks behind a character that is not blank do not hide it; it is the last one
  of the trimmed text.
* `trimStart_append` and `trimEnd_cons`: nor do blanks in front of a text that has other characters.
* `trim_append_append`: what stands behind other characters is trimmed at its end only.
* `trim_trim`: trimming twice is trimming once.
* `trim_eq_nil_iff`: only of a blank text nothing is left.
-/

namespace Semicolon.Text

/-! ### One side -/

/-- What follows other characters than blanks stays. -/
theorem trimStart_append {t : Text} (h : trimStart t ≠ []) (r : Text) :
    trimStart (t ++ r) = trimStart t ++ r := by
  have hne : ¬ (t.dropWhile isBlank).isEmpty = true := fun hempty => h (List.isEmpty_iff.mp hempty)
  rw [trimStart, List.dropWhile_append, if_neg hne, trimStart]

/-- A first character that is not blank stays in front of the trimmed rest. -/
theorem trimEnd_cons {c : Char} (hc : isBlank c = false) (t : Text) :
    trimEnd (c :: t) = c :: trimEnd t := by
  rw [trimEnd, dropEndWhile, List.reverse_cons, List.dropWhile_append]
  split
  · next hempty =>
    -- all of `t` is blank, and `c` is what is left
    have hback : t.reverse.dropWhile isBlank = [] := List.isEmpty_iff.mp hempty
    rw [List.dropWhile_cons_of_neg (by simp [hc]), trimEnd, dropEndWhile, hback]
    rfl
  · rw [List.reverse_append]
    rfl

theorem trimEnd_isPrefix (t : Text) : trimEnd t <+: t := List.rdropWhile_prefix isBlank t

/-- Only blanks are taken from the end. -/
theorem exists_trimEnd_append (t : Text) :
    ∃ r, (∀ c ∈ r, isBlank c = true) ∧ trimEnd t ++ r = t :=
  ⟨t.rtakeWhile isBlank, fun _ => List.mem_rtakeWhile_imp,
    List.rdropWhile_append_rtakeWhile⟩

/-- What is left begins with no blank. -/
theorem trimStart_head {t : Text} {c : Char} {r : Text} (h : trimStart t = c :: r) :
    isBlank c = false := by
  have hhead : (t.dropWhile isBlank).head? = some c := by
    rw [← trimStart, h, List.head?_cons]
  simpa [hhead] using List.head?_dropWhile_not isBlank t

/-! ### Both sides -/

/-- A trimmed text is a part of the text. -/
theorem trim_isInfix (t : Text) : trim t <:+: t :=
  (trimEnd_isPrefix _).isInfix.trans (List.dropWhile_suffix isBlank).isInfix

/-- Only of a blank text nothing is left. -/
theorem trim_eq_nil_iff {t : Text} : trim t = [] ↔ ∀ c ∈ t, isBlank c = true := by
  constructor
  · intro h
    cases hstart : trimStart t with
    | nil => exact List.dropWhile_eq_nil_iff.mp hstart
    | cons c r =>
      rw [trim, hstart, trimEnd_cons (trimStart_head hstart)] at h
      cases h
  · intro h
    have hstart : trimStart t = [] := List.dropWhile_eq_nil_iff.mpr h
    rw [trim, hstart]
    rfl

/-- Behind a trimmed start there is nothing more to take from the start. -/
theorem trimStart_trim (t : Text) : trimStart (trim t) = trim t := by
  rw [trim]
  cases hstart : trimStart t with
  | nil => rfl
  | cons c r =>
    have hc := trimStart_head hstart
    rw [trimEnd_cons hc, trimStart, List.dropWhile_cons_of_neg (by simp [hc])]

/-- A text that was trimmed has no blanks at its ends. -/
theorem trim_trim (t : Text) : trim (trim t) = trim t := by
  have hend : trimEnd (trimEnd (trimStart t)) = trimEnd (trimStart t) :=
    List.rdropWhile_idempotent isBlank _
  rw [trim, trimStart_trim, trim, hend]

/-- A first character that is not blank is the first of the trimmed text. -/
theorem singleton_prefix_trim {c : Char} (hc : isBlank c = false) {t : Text}
    (h : [c] <+: trimStart t) : [c] <+: trim t := by
  obtain ⟨r, hr⟩ := h
  rw [trim, ← hr, List.singleton_append, trimEnd_cons hc]
  exact List.prefix_append [c] _

/-! ### A last character that is not blank -/

/-- A character that is not blank stays with all that follows it. -/
theorem trimStart_append_cons (t r : Text) {c : Char} (hc : isBlank c = false) :
    ∃ u, trimStart (t ++ c :: r) = u ++ c :: r := by
  rw [trimStart, List.dropWhile_append]
  split
  · exact ⟨[], by rw [List.dropWhile_cons_of_neg (by simp [hc]), List.nil_append]⟩
  · exact ⟨t.dropWhile isBlank, rfl⟩

/-- Blanks at the end go up to the last character that is not blank. -/
theorem trimEnd_append_cons (t : Text) {c : Char} {r : Text} (hc : isBlank c = false)
    (hr : ∀ b ∈ r, isBlank b = true) : trimEnd (t ++ c :: r) = t ++ [c] := by
  have hback : ∀ b ∈ r.reverse, isBlank b = true := fun b hb => hr b (List.mem_reverse.mp hb)
  rw [trimEnd, dropEndWhile, List.reverse_append, List.reverse_cons, List.append_assoc,
    List.dropWhile_append_of_pos hback, List.singleton_append,
    List.dropWhile_cons_of_neg (by simp [hc]), List.reverse_cons, List.reverse_reverse]

/-- So it is the last one of the trimmed text. -/
theorem trim_append_cons (t : Text) {c : Char} {r : Text} (hc : isBlank c = false)
    (hr : ∀ b ∈ r, isBlank b = true) : ∃ u, trim (t ++ c :: r) = u ++ [c] := by
  obtain ⟨u, hu⟩ := trimStart_append_cons t r hc
  exact ⟨u, by rw [trim, hu, trimEnd_append_cons u hc hr]⟩

/-- Blanks behind a text do not hide its last character that is none. -/
theorem trim_append_append {t s w : Text} {c : Char} (ht : trim t ≠ []) (hs : s.getLast? = some c)
    (hc : isBlank c = false) (hw : ∀ b ∈ w, isBlank b = true) :
    trim (t ++ s ++ w) = trimStart t ++ s := by
  obtain ⟨u, rfl⟩ := List.getLast?_eq_some_iff.mp hs
  have hstart : trimStart t ≠ [] := fun hstart => ht (by rw [trim, hstart]; rfl)
  have hend := trimEnd_append_cons (trimStart t ++ u) hc hw
  rw [trim, List.append_assoc, trimStart_append hstart, ← List.append_assoc (trimStart t)]
  simpa using hend

end Semicolon.Text
