import Semicolon.Comment
import Semicolon.Proofs.Text.Bytes
import Semicolon.Proofs.Text.Marks
import Semicolon.Proofs.Text.Trim

/-!
# Comment — stripping a line that goes on

What is put behind a line either stays or goes as a whole, if it does not hold a `/` or a `*`, which
could complete a mark.

* `strip_append_of_runsOn`: a comment that reaches to the end of the line takes it away.
* `strip_append_of_not_runsOn`: any other line keeps it.
* `not_runsOn`: such a line is every one whose end is not inside a comment.  The probe looks at the
  last block comment and `strip` at the first, but the first is closed if the last one is
  (`closes_first`).

`lastLine_append` says which line the probe looks at.  On a line without marks there is nothing to
strip (`Markless.strip_eq`) and, unless a `*` begins it, no place inside a comment
(`Markless.endsInside_eq`).

**Main result** (`strip_behind`), for the probe at the end of a line.
-/

namespace Semicolon.Comment
open Text

/-- No character of a mark stands in the text. -/
def IsPlain (x : Text) : Prop := '/' ∉ x ∧ '*' ∉ x

theorem IsPlain.lineMark {x : Text} (h : IsPlain x) : ∀ c ∈ lineMark, c ∉ x := by
  simp [Comment.lineMark, h.1]

theorem IsPlain.openMark {x : Text} (h : IsPlain x) : ∀ c ∈ openMark, c ∉ x := by
  simp [Comment.openMark, h.1, h.2]

theorem IsPlain.closeMark {x : Text} (h : IsPlain x) : ∀ c ∈ closeMark, c ∉ x := by
  simp [Comment.closeMark, h.1, h.2]

/-- In a supported language comments are stripped. -/
theorem stripFor_id (l : Language) (line : Text) : stripFor l.id line = strip line := by
  rw [stripFor, Language.ofId?_id]
  rfl

/-! ### Lines without marks -/

/-- Without a line mark there is no line comment to cut. -/
theorem cutLine_eq_self {line : Text} (h : ¬ lineMark <:+: line) : cutLine line = line := by
  rw [cutLine, splitFirst?_eq_none_iff.mpr h]

/-- No comment begins on the line. -/
def Markless (line : Text) : Prop := ¬ lineMark <:+: line ∧ ¬ openMark <:+: line

instance (line : Text) : Decidable (Markless line) :=
  inferInstanceAs (Decidable (¬ lineMark <:+: line ∧ ¬ openMark <:+: line))

namespace Markless

variable {line part : Text}

theorem of_isInfix (h : Markless line) (hpart : part <:+: line) : Markless part :=
  ⟨fun hin => h.1 (hin.trans hpart), fun hin => h.2 (hin.trans hpart)⟩

/-- There is nothing to strip on it. -/
theorem strip_eq (h : Markless line) : strip line = line := by
  rw [strip, cutLine_eq_self h.1, cutBlock, splitFirst?_eq_none_iff.mpr h.2]

/-- Its end is not inside a comment, unless the line begins with a `*`. -/
theorem endsInside_eq (h : Markless line) (hstar : ¬ ['*'] <+: line.trimStart) :
    endsInside line = false := by
  have hnone : splitLast? openMark line = none := splitLast?_eq_none_iff.mpr h.2
  have hstart : startsWith line.trimStart ['*'] = false := startsWith_eq_false_iff.mpr hstar
  have hline : line.containsMark lineMark = false := by
    rw [← Bool.not_eq_true, containsMark_iff]
    exact h.1
  rw [endsInside, hstart, hline, hnone]
  rfl

/-- Nor does a comment lead it. -/
theorem leads_eq (h : Markless line) (hstar : ¬ ['*'] <+: line) : leads line = false := by
  simp only [leads, Bool.or_eq_false_iff, startsWith_eq_false_iff]
  exact ⟨⟨fun hp => h.1 hp.isInfix, fun hp => h.2 hp.isInfix⟩, hstar⟩

end Markless

/-- A blank line has no marks. -/
theorem markless_of_blank {line : Text} (h : ∀ c ∈ line, isBlank c = true) : Markless line := by
  have hslash : '/' ∉ line := fun hmem => absurd (h _ hmem) (by decide)
  exact ⟨fun hin => hslash (hin.subset (by decide)), fun hin => hslash (hin.subset (by decide))⟩

/-! ### The line of a place -/

/-- Behind whole lines, the last line is what stands behind them. -/
theorem lastLine_append {front left : Text} (hf : front = [] ∨ front.getLast? = some '\n')
    (hl : '\n' ∉ left) : lastLine (front ++ left) = left := by
  have hleft : ∀ c ∈ left.reverse, decide (c ≠ '\n') = true := by
    intro c hc
    rw [decide_eq_true_eq]
    rintro rfl
    exact hl (List.mem_reverse.mp hc)
  -- from the end of `front` no character is taken: a line feed ends it
  have hfront : front.reverse.takeWhile (· ≠ '\n') = [] := by
    rcases hf with rfl | hf
    · rfl
    · obtain ⟨f, rfl⟩ := List.getLast?_eq_some_iff.mp hf
      rw [List.reverse_append]
      rfl
  rw [lastLine, List.reverse_append, List.takeWhile_append_of_pos hleft, hfront, List.append_nil,
    List.reverse_reverse]

/-- The probe looks at the last line in front of the place. -/
theorem isInside_append (front behind : Text) :
    isInside (front ++ behind) (byteSize front) = endsInside (lastLine front) := by
  rw [isInside, takeBytes_byteSize_append]

/-- At the end of a line the probe looks at all of it. -/
theorem isInside_end {line : Text} (h : '\n' ∉ line) :
    isInside line (byteSize line) = endsInside line := by
  have hlast : lastLine line = line := lastLine_append (.inl rfl) h
  have hend := isInside_append line []
  rwa [List.append_nil, hlast] at hend

/-! ### Lines that do not end inside a comment -/

/-- The last block comment of the line is closed. -/
theorem closes_last {line before body : Text} (h : endsInside line = false)
    (hs : splitLast? openMark line = some (before, body)) : closeMark <:+: body := by
  rw [endsInside, hs] at h
  simp only [Bool.or_eq_false_iff, Bool.not_eq_false'] at h
  exact containsMark_iff.mp h.2

/-- The first block comment of a line is closed if the last one is: it reaches further. -/
theorem closes_first {line before body : Text} (h : endsInside line = false)
    (hs : splitFirst? openMark line = some (before, body)) : closeMark <:+: body := by
  cases hlast : splitLast? openMark line with
  | none =>
    -- without a last mark there is no first one
    have hin : openMark <:+: line := ⟨before, body, by simp [splitFirst?_some hs]⟩
    exact absurd hin (splitLast?_eq_none_iff.mp hlast)
  | some s =>
    obtain ⟨before', body'⟩ := s
    -- the first mark does not stand behind the last, so the body of the last is the shorter
    have hle : before.length ≤ before'.length := splitFirst?_length_le hs (splitLast?_some hlast)
    have heq := (splitLast?_some hlast).symm.trans (splitFirst?_some hs)
    have hlen : body'.length ≤ body.length := by
      have := congrArg List.length heq
      simp only [List.length_append] at this
      omega
    have hbody' : body' <:+ before ++ (openMark ++ body) :=
      ⟨before' ++ openMark, by rw [List.append_assoc, heq]⟩
    have hbody : body <:+ before ++ (openMark ++ body) :=
      ⟨before ++ openMark, List.append_assoc ..⟩
    have hsuffix := List.suffix_of_suffix_length_le hbody' hbody hlen
    exact (closes_last h hlast).trans hsuffix.isInfix

/-- A line comment reaches to the end of its line. -/
theorem not_lineMark {line : Text} (h : endsInside line = false) : ¬ lineMark <:+: line := by
  simp only [endsInside, Bool.or_eq_false_iff] at h
  rw [← containsMark_iff, h.1.2]
  exact Bool.false_ne_true

/-! ### What stands behind a line -/

/-- A line that ends inside a comment still does if plain text follows. -/
theorem endsInside_append {line x : Text} (hx : IsPlain x) (h : endsInside line = true) :
    endsInside (line ++ x) = true := by
  simp only [endsInside, Bool.or_eq_true] at h ⊢
  rw [containsMark_append (by decide) hx.lineMark, splitLast?_append (by decide) hx.openMark]
  rcases h with (hstar | hline) | hopen
  · left; left
    cases hd : line.trimStart with
    | nil => simp [hd, startsWith] at hstar
    | cons c t =>
      rw [hd] at hstar
      rw [trimStart_append (by simp [hd]), hd]
      simpa [startsWith] using hstar
  · exact .inl (.inr hline)
  · right
    cases hs : splitLast? openMark line with
    | none => simp [hs] at hopen
    | some s =>
      rw [hs] at hopen
      simpa [containsMark_append (by decide) hx.closeMark] using hopen

/-- A comment that `strip` cuts off reaches to the end of the line: a line comment, or the first
block comment, which is not closed. -/
def RunsOn (line : Text) : Prop :=
  lineMark <:+: line ∨
    ∃ before body, splitFirst? openMark line = some (before, body) ∧ ¬ closeMark <:+: body

/-- The probe at the end of a line sees every comment that runs on. -/
theorem not_runsOn {line : Text} (h : endsInside line = false) : ¬ RunsOn line := by
  rintro (hline | ⟨before, body, hs, hopen⟩)
  · exact not_lineMark h hline
  · exact hopen (closes_first h hs)

/-- A line comment takes with it what follows. -/
theorem cutLine_append {line x : Text} (h : lineMark <:+: line) (hx : IsPlain x) :
    cutLine (line ++ x) = cutLine line := by
  obtain ⟨before, behind, hs⟩ := exists_splitFirst?_eq h
  rw [cutLine, cutLine, splitFirst?_append (by decide) hx.lineMark, hs]
  rfl

/-- Without a line comment only a block is cut, whatever plain text follows. -/
theorem strip_append_eq_cutBlock {line x : Text} (h : ¬ lineMark <:+: line) (hx : IsPlain x) :
    strip (line ++ x) = cutBlock (line ++ x) := by
  rw [strip, cutLine_eq_self]
  rwa [infix_append_iff (by decide) hx.lineMark]

/-- **A comment that runs on takes away what is put behind the line.** -/
theorem strip_append_of_runsOn {line x : Text} (h : RunsOn line) (hx : IsPlain x) :
    strip (line ++ x) = strip line := by
  by_cases hline : lineMark <:+: line
  · rw [strip, strip, cutLine_append hline hx]
  · -- what follows closes the block no more than the line does
    obtain ⟨before, body, hs, hopen⟩ := h.resolve_left hline
    have hnone : splitFirst? closeMark body = none := splitFirst?_eq_none_iff.mpr hopen
    rw [strip_append_eq_cutBlock hline hx, strip, cutLine_eq_self hline, cutBlock, cutBlock,
      splitFirst?_append (by decide) hx.openMark, hs]
    simp only [Option.map_some, splitFirst?_append (by decide) hx.closeMark, hnone,
      Option.map_none]

/-- **Any other line keeps what is put behind it.** -/
theorem strip_append_of_not_runsOn {line x : Text} (h : ¬ RunsOn line) (hx : IsPlain x) :
    strip (line ++ x) = strip line ++ x := by
  have hline : ¬ lineMark <:+: line := fun hin => h (.inl hin)
  rw [strip_append_eq_cutBlock hline hx, strip, cutLine_eq_self hline, cutBlock, cutBlock,
    splitFirst?_append (by decide) hx.openMark]
  cases hs : splitFirst? openMark line with
  | none => rfl
  | some s =>
    obtain ⟨before, body⟩ := s
    -- the comment is closed inside of the line, so the cut does not reach `x`
    have hclosed : closeMark <:+: body := not_not.mp fun hopen => h (.inr ⟨before, body, hs, hopen⟩)
    obtain ⟨inner, behind, hclose⟩ := exists_splitFirst?_eq hclosed
    simp only [Option.map_some, splitFirst?_append (by decide) hx.closeMark, hclose,
      List.append_assoc]

/-- So does every line whose end is not inside a comment. -/
theorem strip_append {line x : Text} (h : endsInside line = false) (hx : IsPlain x) :
    strip (line ++ x) = strip line ++ x :=
  strip_append_of_not_runsOn (not_runsOn h) hx

/-- Stripping leaves alone what is put behind a line whose end is not inside a comment, so a
terminator of any supported language stays.  A comment that runs on takes it away. -/
theorem strip_behind {line : Text} (hline : '\n' ∉ line) :
    (isInside line (byteSize line) = false →
      (∀ t, IsPlain t → strip (line ++ t) = strip line ++ t) ∧
      ∀ l : Language,
        stripFor l.id (line ++ [l.terminator]) = stripFor l.id line ++ [l.terminator]) ∧
    (RunsOn line → ∀ t, IsPlain t → strip (line ++ t) = strip line) := by
  rw [isInside_end hline]
  refine ⟨fun hout => ⟨fun t ht => strip_append hout ht, fun l => ?_⟩,
    fun hruns t ht => strip_append_of_runsOn hruns ht⟩
  have hplain : IsPlain [l.terminator] := by cases l <;> exact ⟨by decide, by decide⟩
  rw [stripFor_id, stripFor_id, strip_append hout hplain]

/-- A line of which the marks overlap, and a line with a line comment. -/
theorem strip_behind_of_overlap :
    let line := "a /*/ b */ c /**/".toList
    let other := "a /* b */ c // d".toList
    ('\n' ∉ line ∧ isInside line (byteSize line) = false ∧ IsPlain " + 1\r".toList ∧
      strip (line ++ " + 1\r".toList) = strip line ++ " + 1\r".toList ∧
      stripFor "java" (line ++ [';']) = stripFor "java" line ++ [';']) ∧
    ('\n' ∉ other ∧ RunsOn other ∧ strip (other ++ " + 1\r".toList) = strip other) := by
  intro line other
  have hline : '\n' ∉ line := by decide
  have hother : '\n' ∉ other := by decide
  have hout : isInside line (byteSize line) = false := by decide
  have hplain : IsPlain " + 1\r".toList := ⟨by decide, by decide⟩
  have hruns : RunsOn other := .inl (by decide)
  obtain ⟨hkeeps, hterminator⟩ := (strip_behind hline).1 hout
  exact ⟨⟨hline, hout, hplain, hkeeps _ hplain, hterminator .java⟩, hother, hruns,
    (strip_behind hother).2 hruns _ hplain⟩

end Semicolon.Comment
