import Mathlib.Logic.Function.Iterate
import Semicolon.Proofs.Comment.Strip
import Semicolon.Proofs.Text.Occurrences

/-!
# Comment — stripping again and again

One application removes the line comment and the first block comment of a line.  What stood on both
sides of a block then stands together, but the `/` of a new mark could only be the last character in
front of the block, and there it would have made a line mark with the block's own `/`.

* `BlockCut`: all that cutting out a block comment can do.
* `strip_parts`: what is left of a line, and what was cut off it.
* `not_lineMark_strip` and `occurrences_strip_le`: no line mark is left, and of the marks that open
  a block one less, if there was one.
* `markless_iterate`: so after as many applications as blocks were opened no mark is left.

**Main result** (`strip_progress`), for every supported language.
-/

namespace Semicolon.Comment

open Text

/-! ### Cutting once -/

/-- What is left of a text when its first block comment is cut out. -/
inductive BlockCut : Text → Text → Prop where
  | whole {t : Text} (h : ¬ openMark <:+: t) : BlockCut t t
  | unclosed {before body : Text} (h : ¬ openMark <:+: before) :
      BlockCut (before ++ (openMark ++ body)) before
  | closed {before inner behind : Text} (h : ¬ openMark <:+: before) :
      BlockCut (before ++ (openMark ++ (inner ++ (closeMark ++ behind)))) (before ++ behind)

/-- This is all that cutting out a block comment does. -/
theorem blockCut_cutBlock (t : Text) : BlockCut t (cutBlock t) := by
  rw [cutBlock]
  split
  · next hnone => exact .whole (splitFirst?_eq_none_iff.mp hnone)
  · next before body hopen =>
    have hbefore : ¬ openMark <:+: before := splitFirst?_not_infix hopen (by decide)
    obtain rfl := splitFirst?_some hopen
    split
    · next inner behind hclose =>
      obtain rfl := splitFirst?_some hclose
      exact .closed hbefore
    · exact .unclosed hbefore

/-- The line is what is left of it in front of its first line mark, and a line comment. -/
theorem exists_cutLine_append (line : Text) : ∃ tail, line = cutLine line ++ tail ∧
    ¬ lineMark <:+: cutLine line ∧ (tail = [] ∨ lineMark <+: tail) := by
  rw [cutLine]
  split
  · next before behind hline =>
    exact ⟨lineMark ++ behind, splitFirst?_some hline, splitFirst?_not_infix hline (by decide),
      .inr (List.prefix_append _ _)⟩
  · next hnone =>
    exact ⟨[], (List.append_nil line).symm, splitFirst?_eq_none_iff.mp hnone, .inl rfl⟩

/-- What stands in front of the first line mark holds none. -/
theorem not_lineMark_cutLine (line : Text) : ¬ lineMark <:+: cutLine line := by
  obtain ⟨_, -, hline, -⟩ := exists_cutLine_append line
  exact hline

/-- A line comment and one block comment at most are cut off; a block that is not closed reaches to
the end. -/
theorem strip_parts (line : Text) : ∃ before span behind tail,
    line = before ++ span ++ behind ++ tail ∧ strip line = before ++ behind ∧
    (span = [] ∨ ∃ inner, span = openMark ++ inner ++ closeMark) ∧
    (tail = [] ∨ lineMark <+: tail ∨ openMark <+: tail) := by
  obtain ⟨tail, hline, -, htail⟩ := exists_cutLine_append line
  have hcut := blockCut_cutBlock (cutLine line)
  rw [strip]
  generalize cutLine line = code at hline hcut
  generalize cutBlock code = stripped at hcut
  subst hline
  cases hcut with
  | whole h => exact ⟨code, [], [], tail, by simp, by simp, .inl rfl, htail.imp_right .inl⟩
  | @unclosed before body h =>
    exact ⟨stripped, [], [], openMark ++ body ++ tail, by simp, by simp, .inl rfl,
      .inr (.inr (by rw [List.append_assoc]; exact List.prefix_append _ _))⟩
  | @closed before inner behind h =>
    exact ⟨before, openMark ++ inner ++ closeMark, behind, tail, by simp, rfl,
      .inr ⟨inner, rfl⟩, htail.imp_right .inl⟩

/-! ### What is left -/

/-- In front of a block there is no `/`: it would make a line mark. -/
theorem getLast?_ne_slash {before body : Text} (h : ¬ lineMark <:+: before ++ (openMark ++ body)) :
    before.getLast? ≠ some '/' := by
  intro hlast
  obtain ⟨front, rfl⟩ := List.getLast?_eq_some_iff.mp hlast
  exact h ⟨front, '*' :: body, by simp [lineMark, openMark]⟩

/-- No line mark comes up where a block was cut out. -/
theorem not_lineMark_of_blockCut {t stripped : Text} (hcut : BlockCut t stripped)
    (h : ¬ lineMark <:+: t) : ¬ lineMark <:+: stripped := by
  cases hcut with
  | whole _ => exact h
  | unclosed _ => exact fun hin => h (hin.trans (List.prefix_append _ _).isInfix)
  | @closed before inner behind _ =>
    -- counted, a mark on the seam would have to begin with the last character of `before`
    rw [← occurrences_eq_zero_iff, lineMark, occurrences_append _ (getLast?_ne_slash h),
      Nat.add_eq_zero_iff, ← lineMark, occurrences_eq_zero_iff, occurrences_eq_zero_iff]
    constructor
    · exact fun hin => h (hin.trans (List.prefix_append _ _).isInfix)
    · exact fun hin => h (hin.trans ⟨before ++ openMark ++ inner ++ closeMark, [], by simp⟩)

/-- No line mark is left on a line that was stripped. -/
theorem not_lineMark_strip (line : Text) : ¬ lineMark <:+: strip line :=
  not_lineMark_of_blockCut (blockCut_cutBlock _) (not_lineMark_cutLine line)

/-- A block that is cut out takes its own mark with it, and none comes up in its place. -/
theorem occurrences_blockCut_le {t stripped : Text} (hcut : BlockCut t stripped)
    (h : ¬ lineMark <:+: t) : occurrences openMark stripped ≤ occurrences openMark t - 1 := by
  cases hcut with
  | whole hopen => simp [occurrences_eq_zero_iff.mpr hopen]
  | unclosed hopen => simp [occurrences_eq_zero_iff.mpr hopen]
  | @closed before inner behind hopen =>
    have hseam : occurrences openMark (before ++ behind) = occurrences openMark behind := by
      rw [openMark, occurrences_append _ (getLast?_ne_slash h), ← openMark,
        occurrences_eq_zero_iff.mpr hopen, Nat.zero_add]
    have hmark : openMark ≠ [] := by decide
    -- the mark of the block itself is the one that is missing
    have hblock := lt_occurrences hmark (inner ++ (closeMark ++ behind))
    have hbehind : behind <:+: inner ++ (closeMark ++ behind) :=
      ⟨inner ++ closeMark, [], by simp⟩
    have hle : occurrences openMark behind ≤ _ := occurrences_le_of_isInfix hbehind
    have hwhole := occurrences_append_left_le openMark before
      (openMark ++ (inner ++ (closeMark ++ behind)))
    omega

/-- One mark less opens a block, if one did. -/
theorem occurrences_strip_le (line : Text) :
    occurrences openMark (strip line) ≤ occurrences openMark line - 1 := by
  obtain ⟨tail, hline, hnot, -⟩ := exists_cutLine_append line
  have hstrip := occurrences_blockCut_le (blockCut_cutBlock (cutLine line)) hnot
  have hcut := occurrences_append_right_le openMark (cutLine line) tail
  rw [← hline] at hcut
  rw [strip]
  omega

/-! ### Stripping more often -/

/-- Every application takes away one of these marks, as long as there are any. -/
theorem occurrences_iterate_le (line : Text) (n : Nat) :
    occurrences openMark (strip^[n] line) ≤ occurrences openMark line - n := by
  induction n with
  | zero => exact Nat.le_refl _
  | succ n ih =>
    rw [Function.iterate_succ_apply']
    have := occurrences_strip_le (strip^[n] line)
    omega

/-- So no mark is left after as many applications as blocks were opened, but at least one. -/
theorem markless_iterate {line : Text} {n : Nat} (hpos : 1 ≤ n)
    (hn : occurrences openMark line ≤ n) : Markless (strip^[n] line) := by
  obtain ⟨m, rfl⟩ := Nat.exists_eq_add_of_le' hpos
  constructor
  · -- the last application alone removes the line marks
    rw [Function.iterate_succ_apply']
    exact not_lineMark_strip _
  · rw [← occurrences_eq_zero_iff]
    have := occurrences_iterate_le line (m + 1)
    omega

/-- From then on nothing changes. -/
theorem iterate_eq {line : Text} {m n : Nat} (h : Markless (strip^[m] line)) (hmn : m ≤ n) :
    strip^[n] line = strip^[m] line := by
  obtain ⟨k, rfl⟩ := Nat.exists_eq_add_of_le' hmn
  rw [Function.iterate_add_apply, Function.iterate_fixed h.strip_eq]

/-- Stripping a line of a supported language leaves no line mark, and one mark less that opens a
block.  So no mark is left once it was done as often as a block is opened, and then nothing more
happens. -/
theorem strip_progress (l : Language) (line : Text) :
    ¬ lineMark <:+: stripFor l.id line ∧
    (∃ before span behind tail,
      line = before ++ span ++ behind ++ tail ∧ stripFor l.id line = before ++ behind ∧
      (span = [] ∨ ∃ inner, span = openMark ++ inner ++ closeMark) ∧
      (tail = [] ∨ lineMark <+: tail ∨ openMark <+: tail)) ∧
    (Markless line → stripFor l.id line = line) ∧
    (openMark <:+: line →
      occurrences openMark (stripFor l.id line) < occurrences openMark line) ∧
    (∀ n, max (occurrences openMark line) 1 ≤ n →
      Markless ((stripFor l.id)^[n] line) ∧
      (stripFor l.id)^[n] line = (stripFor l.id)^[max (occurrences openMark line) 1] line) ∧
    (occurrences openMark line ≤ 1 →
      stripFor l.id (stripFor l.id line) = stripFor l.id line) := by
  have hstrip : stripFor l.id = strip := funext (stripFor_id l)
  have hmarkless : ∀ n, max (occurrences openMark line) 1 ≤ n → Markless (strip^[n] line) :=
    fun n hn => markless_iterate (Nat.max_le.mp hn).2 (Nat.max_le.mp hn).1
  rw [hstrip]
  refine ⟨not_lineMark_strip line, strip_parts line, Markless.strip_eq, fun hopen => ?_,
    fun n hn => ⟨hmarkless n hn, iterate_eq (hmarkless _ (Nat.le_refl _)) hn⟩, fun hone => ?_⟩
  · have hpos : occurrences openMark line ≠ 0 := fun hzero =>
      occurrences_eq_zero_iff.mp hzero hopen
    have := occurrences_strip_le line
    omega
  · exact (hmarkless 1 (Nat.max_le.mpr ⟨hone, Nat.le_refl 1⟩)).strip_eq

/-- A line with two blocks, of which the second is not closed, and a mark that opens one inside of
its line comment; a line with one block; and a line without comments. -/
theorem strip_progress_of_blocks :
    let line := "a /* b */ c /* d // /*".toList
    let block := "a /* b */ c".toList
    let plain := "a / b * c".toList
    (openMark <:+: line ∧ occurrences openMark line = 3 ∧
      occurrences openMark (stripFor "cpp" line) < 3 ∧
      Markless ((stripFor "cpp")^[3] line) ∧
      (stripFor "cpp")^[4] line = (stripFor "cpp")^[3] line) ∧
    (occurrences openMark block ≤ 1 ∧
      stripFor "cpp" (stripFor "cpp" block) = stripFor "cpp" block) ∧
    Markless plain ∧ stripFor "cpp" plain = plain := by
  intro line block plain
  have hopen : openMark <:+: line := by decide
  have hone : occurrences openMark block ≤ 1 := by decide
  have hmarkless : Markless plain := by decide
  obtain ⟨-, -, -, hless, hiterate, -⟩ := strip_progress .cpp line
  obtain ⟨-, -, -, -, -, htwice⟩ := strip_progress .cpp block
  obtain ⟨-, -, hsame, -⟩ := strip_progress .cpp plain
  exact ⟨⟨hopen, rfl, hless hopen, (hiterate 3 (by decide)).1, (hiterate 4 (by decide)).2⟩,
    ⟨hone, htwice hone⟩, hmarkless, hsame hmarkless⟩

end Semicolon.Comment
