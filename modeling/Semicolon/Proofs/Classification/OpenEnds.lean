import Semicolon.Proofs.Classification.Exits

/-!
# Classification — how a line has to end

A line that ends in a terminator has no need of one, and a line that ends in an operator or an
opening mark goes on.  So neither gets a terminator, whatever stands in front.

* `continues_of_suffix`: a mark at the end of a line is found there.  A `+` or `-` behind another
  one is a step, and no such mark.
* `Profile.IsFinished`: what a line has to be for a rule to end its statement.

**Main result** (`openEnded_suppressed`).  No line gets a terminator behind one of these marks, and
a line that gets one is finished by the rule that the reason names.
-/

namespace Semicolon

open Text

/-! ### The marks -/

/-- The marks behind which no terminator is put. -/
def endMarks : List String := ";" :: continuationSuffixes

theorem exists_last_of_endMark {mark : String} (h : mark ∈ endMarks) :
    ∃ c, mark.toList.getLast? = some c ∧ isBlank c = false := by
  have hall : ∀ m ∈ endMarks, m.toList.getLast?.any (!isBlank ·) = true := by decide
  obtain ⟨c, hc, hblank⟩ := Option.any_eq_true _ _ |>.mp (hall mark h)
  exact ⟨c, hc, by simpa using hblank⟩

/-- A mark that ends in `+` or `-` is that character alone. -/
theorem eq_of_sign_endMark {mark : String} (h : mark ∈ endMarks) {sign : Char}
    (hsign : sign = '+' ∨ sign = '-') (hlast : mark.toList.getLast? = some sign) :
    mark.toList = [sign] := by
  have hplus : ∀ m ∈ endMarks, m.toList.getLast? = some '+' → m.toList = ['+'] := by decide
  have hminus : ∀ m ∈ endMarks, m.toList.getLast? = some '-' → m.toList = ['-'] := by decide
  rcases hsign with rfl | rfl
  · exact hplus mark h hlast
  · exact hminus mark h hlast

/-- Behind a text that does not end in the same sign, no mark makes a step. -/
theorem not_step_of_endMark {mark : String} (h : mark ∈ endMarks) {sign : Char}
    (hsign : sign = '+' ∨ sign = '-') {t : Text} (ht : mark.toList = [sign] → ¬ [sign] <:+ t) :
    ¬ [sign, sign] <:+ t ++ mark.toList := by
  rintro ⟨u, hu⟩
  obtain ⟨c, hc, -⟩ := exists_last_of_endMark h
  have hlast : mark.toList.getLast? = some sign := by
    have hends := congrArg List.getLast? hu
    rw [List.getLast?_append, List.getLast?_append, hc] at hends
    rw [hc]
    exact hends.symm
  have hmark := eq_of_sign_endMark h hsign hlast
  rw [hmark, List.append_cons u sign [sign]] at hu
  exact ht hmark ⟨u, List.append_cancel_right hu⟩

/-- A mark that leaves a statement open does so at the end of a line, unless it makes a step. -/
theorem continues_of_suffix {suffix : String} (h : suffix ∈ continuationSuffixes) {t : Text}
    (ht : suffix = "+" ∨ suffix = "-" → ¬ suffix.toList <:+ t) :
    Continues (t ++ suffix.toList) := by
  have hmark : suffix ∈ endMarks := List.mem_cons_of_mem _ h
  have hplus : suffix.toList = ['+'] → ¬ ['+'] <:+ t := fun heq =>
    heq ▸ ht (.inl (String.toList_inj.mp heq))
  have hminus : suffix.toList = ['-'] → ¬ ['-'] <:+ t := fun heq =>
    heq ▸ ht (.inr (String.toList_inj.mp heq))
  exact ⟨not_step_of_endMark hmark (.inl rfl) hplus, not_step_of_endMark hmark (.inr rfl) hminus,
    suffix, h, List.suffix_append _ _⟩

/-! ### Finished lines -/

namespace Profile

/-- The line is a statement that needs nothing behind it, by the rule. -/
structure IsFinished (p : Profile) (line : Text) (rule : Rule) : Prop where
  not_empty : line ≠ []
  not_terminated : ¬ [';'] <:+ line
  not_unclosed : (Balance.of line).hasUnclosed = false
  /-- It ends in a step, or in no mark that leaves it open. -/
  not_continued : "++".toList <:+ line ∨ "--".toList <:+ line ∨
    ∀ suffix ∈ continuationSuffixes, ¬ suffix.toList <:+ line
  not_elseIf : ¬ "else if".toList <+: line
  no_brace : p.opensControl line = true → '{' ∉ line
  not_suppressed : ∀ other ∈ p.suppress, other.accepts line = false
  rule_mem : rule ∈ p.require
  rule_accepts : rule.accepts line = true

theorem of_not_exceptional {p : Profile} {line : Text} (h : p.controlException? line = none)
    (hopens : p.opensControl line = true) : ¬ "else if".toList <+: line ∧ '{' ∉ line := by
  rw [controlException?, hopens] at h
  split at h
  next hclosed => cases hclosed
  split at h
  · cases h
  split at h
  · cases h
  next helseIf =>
  split at h
  · cases h
  next hbrace =>
  exact ⟨fun hprefix => helseIf (startsWith_iff.mpr hprefix), by simpa using hbrace⟩

end Profile

/-- A line that begins with `else if` begins with a control keyword. -/
theorem opensControl_of_elseIf (l : Language) {line : Text} (h : "else if".toList <+: line) :
    l.profile.opensControl line = true := by
  obtain ⟨x, rfl⟩ := h
  exact opensControl_of_else l (x := " if".toList ++ x) (isWord_of_isBlank (by decide))

/-- A line that a rule ends is finished. -/
theorem Profile.Requires.isFinished {l : Language} {line : Text} {rule : Rule}
    (h : l.profile.Requires l.terminator line rule) : l.profile.IsFinished line rule := by
  obtain ⟨hmem, haccepts⟩ := Rule.first?_eq_some h.required
  constructor
  case not_empty => exact List.isEmpty_eq_false_iff.mp h.not_empty
  case not_terminated =>
    intro hsuffix
    have hends : endsWith line [l.terminator] = true := List.isSuffixOf_iff_suffix.mpr hsuffix
    rw [h.not_terminated] at hends
    cases hends
  case not_unclosed => exact h.not_unclosed
  case not_continued =>
    have hnot := continuationSuffix?_eq_none_iff.mp h.not_continued
    by_contra hopen
    simp only [not_or, not_forall, not_not] at hopen
    obtain ⟨hplus, hminus, suffix, hsuffix, hend⟩ := hopen
    exact hnot ⟨hplus, hminus, suffix, hsuffix, hend⟩
  case not_elseIf =>
    intro hprefix
    exact (of_not_exceptional h.not_exceptional (opensControl_of_elseIf l hprefix)).1 hprefix
  case no_brace => exact fun hopens => (of_not_exceptional h.not_exceptional hopens).2
  case not_suppressed => exact Rule.first?_eq_none_iff.mp h.not_suppressed
  case rule_mem => exact hmem
  case rule_accepts => exact haccepts

/-! ### The decision -/

/-- Only a supported language inserts, and by one of its rules. -/
theorem exists_requires_of_insert {id : String} {line : Text}
    (h : (classifyFor id line).decision = .insert) :
    ∃ l rule, Language.ofId? id = some l ∧ l.profile.Requires l.terminator line.trim rule ∧
      classifyFor id line = .insert rule.name := by
  rw [classifyFor] at h ⊢
  cases hl : Language.ofId? id with
  | none =>
    rw [hl] at h
    cases h
  | some l =>
    rw [hl] at h
    obtain ⟨rule, hrequires⟩ := Profile.exists_requires h
    exact ⟨l, rule, rfl, hrequires, Profile.classifyTrimmed_of_requires hrequires⟩

/-- A line that ends in a terminator or goes on gets no terminator; a line that gets one is
finished. -/
theorem openEnded_suppressed (id : String) :
    (∀ (line blanks : Text) (mark : String), line.trim ≠ [] → mark ∈ endMarks →
      (mark = "+" ∨ mark = "-" → ¬ mark.toList <:+ line) → (∀ c ∈ blanks, isBlank c = true) →
      (classifyFor id (line ++ mark.toList ++ blanks)).decision = .suppress) ∧
    ∀ line : Text, (classifyFor id line).decision = .insert →
      ∃ l rule, Language.ofId? id = some l ∧ l.profile.IsFinished line.trim rule ∧
        (classifyFor id line).reason = .requireRule rule.name := by
  constructor
  · intro line blanks mark hline hmark hsign hblanks
    cases hdecision : (classifyFor id (line ++ mark.toList ++ blanks)).decision with
    | suppress => rfl
    | insert =>
      obtain ⟨l, rule, -, hrequires, -⟩ := exists_requires_of_insert hdecision
      obtain ⟨c, hlast, hc⟩ := exists_last_of_endMark hmark
      rw [trim_append_append hline hlast hc hblanks] at hrequires
      rcases List.mem_cons.mp hmark with rfl | hsuffix
      · exact absurd (List.suffix_append _ _) hrequires.isFinished.not_terminated
      · -- what stands in front of the mark ends as it did before the trimming
        have hfront : mark = "+" ∨ mark = "-" → ¬ mark.toList <:+ trimStart line :=
          fun hname hends => hsign hname (hends.trans (List.dropWhile_suffix isBlank))
        exact absurd (continues_of_suffix hsuffix hfront)
          (continuationSuffix?_eq_none_iff.mp hrequires.not_continued)
  · intro line hdecision
    obtain ⟨l, rule, hl, hrequires, hclassify⟩ := exists_requires_of_insert hdecision
    exact ⟨l, rule, hl, hrequires.isFinished, by rw [hclassify]; rfl⟩

/-- An arrow behind a minus is no step, nor are two signs with a blank between them. -/
theorem openEnded_suppressed_of_signs :
    (classifyFor "cpp" "node-->\t ".toList).decision = .suppress ∧
      (classifyFor "java" "x = i+ +".toList).decision = .suppress ∧
      ∃ rule, Language.javaScript.profile.IsFinished "i++".toList rule := by
  obtain ⟨hcpp, -⟩ := openEnded_suppressed "cpp"
  obtain ⟨hjava, -⟩ := openEnded_suppressed "java"
  obtain ⟨-, hscript⟩ := openEnded_suppressed "javascript"
  obtain ⟨l, rule, hl, hfinished, -⟩ := hscript " i++".toList (by decide)
  obtain rfl : Language.javaScript = l := Option.some.inj hl
  refine ⟨?_, ?_, rule, hfinished⟩
  · exact hcpp "node-".toList "\t ".toList "->" (by decide) (by decide) (by decide)
      (List.all_eq_true.mp (by decide))
  · exact hjava "x = i+ ".toList [] "+" (by decide) (by decide) (by decide)
      (List.forall_mem_nil _)

end Semicolon
