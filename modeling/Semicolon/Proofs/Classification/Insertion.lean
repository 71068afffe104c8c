import Semicolon.Classification

/-!
# Classification — all that an insertion says about a line

`Profile.Requires` gathers the answers of all questions that a line has passed when a rule inserts a
terminator.

**Main result** (`decision_eq_insert_iff`).  A terminator is inserted exactly if there is such a
rule; and then the rule is the reason (`classifyTrimmed_of_requires`).
-/

namespace Semicolon

open Text (endsWith)

theorem Balance.hasUnclosed_eq_false_iff {b : Balance} :
    b.hasUnclosed = false ↔ b.parens ≤ 0 ∧ b.brackets ≤ 0 ∧ b.braces ≤ 0 := by
  simp [hasUnclosed, and_assoc]

/-! ### The tables -/

namespace Rule

variable {rules : List Rule} {line : Text} {rule : Rule}

theorem first?_eq_some (h : first? rules line = some rule) :
    rule ∈ rules ∧ rule.accepts line = true := by
  rw [first?] at h
  have haccepts := List.find?_some h
  exact ⟨List.mem_of_find?_eq_some h, haccepts⟩

theorem first?_eq_none_iff :
    first? rules line = none ↔ ∀ rule ∈ rules, rule.accepts line = false := by
  simp only [first?, List.find?_eq_none, Bool.not_eq_true]

theorem exists_first? (hrule : rule ∈ rules) (h : rule.accepts line = true) :
    ∃ first, first? rules line = some first := by
  rw [← Option.isSome_iff_exists, first?, List.find?_isSome]
  exact ⟨rule, hrule, h⟩

end Rule

theorem mem_require_of_shared {rule : Rule} (h : rule ∈ Rules.sharedRequire) (l : Language) :
    rule ∈ l.profile.require := by
  cases l <;> exact List.mem_append_right _ h

/-! ### The answers -/

namespace Profile

/-- No question settles the line but the last one, and the rule is the first that accepts it. -/
structure Requires (p : Profile) (terminator : Char) (line : Text) (rule : Rule) : Prop where
  not_empty : line.isEmpty = false
  not_terminated : endsWith line [terminator] = false
  not_exceptional : p.controlException? line = none
  not_opened : (p.declaration.opens line && opensBlock line) = false
  not_unclosed : (Balance.of line).hasUnclosed = false
  not_suppressed : Rule.first? p.suppress line = none
  not_header : p.isControlHeader line = false
  not_continued : continuationSuffix? line = none
  required : Rule.first? p.require line = some rule

variable {p q : Profile} {terminator : Char} {line : Text} {rule other : Rule}

/-- The rule is the reason to insert. -/
theorem classifyTrimmed_of_requires (h : p.Requires terminator line rule) :
    p.classifyTrimmed terminator line = .insert rule.name := by
  rw [classifyTrimmed, h.not_empty, h.not_terminated, h.not_exceptional, h.not_opened,
    h.not_unclosed, h.not_suppressed, h.not_header, h.not_continued, h.required]
  rfl

/-- Every answer of another question suppresses. -/
theorem exists_requires (h : (p.classifyTrimmed terminator line).decision = .insert) :
    ∃ rule, p.Requires terminator line rule := by
  -- the questions are taken in their order, and each one that does not settle the line is a field
  rw [classifyTrimmed] at h
  split at h
  · cases h
  next hempty =>
  split at h
  · cases h
  next hterminated =>
  split at h
  · cases h
  next hexception =>
  split at h
  · cases h
  next hopened =>
  split at h
  · cases h
  next hunclosed =>
  split at h
  · cases h
  next hsuppressed =>
  split at h
  · cases h
  next hheader =>
  split at h
  · cases h
  next hcontinued =>
  split at h
  · next rule hrequired =>
    simp only [Bool.not_eq_true] at hempty hterminated hopened hunclosed hheader
    exact ⟨rule, hempty, hterminated, hexception, hopened, hunclosed, hsuppressed, hheader,
      hcontinued, hrequired⟩
  · cases h

/-- A terminator is inserted exactly if a rule has passed all questions. -/
theorem decision_eq_insert_iff :
    (p.classifyTrimmed terminator line).decision = .insert ↔
      ∃ rule, p.Requires terminator line rule := by
  constructor
  · exact exists_requires
  · rintro ⟨rule, h⟩
    rw [classifyTrimmed_of_requires h]
    rfl

/-- Profiles with the same keywords differ in three answers at most. -/
theorem Requires.transfer (h : p.Requires terminator line rule)
    (hcontrol : q.controlKeywords = p.controlKeywords)
    (hheaders : q.headerKeywords = p.headerKeywords)
    (hopened : (q.declaration.opens line && opensBlock line) = false)
    (hsuppressed : Rule.first? q.suppress line = none)
    (hrequired : Rule.first? q.require line = some other) : q.Requires terminator line other := by
  constructor
  case not_empty => exact h.not_empty
  case not_terminated => exact h.not_terminated
  case not_exceptional =>
    have hexception := h.not_exceptional
    rwa [controlException?, opensControl, ← hcontrol] at hexception
  case not_opened => exact hopened
  case not_unclosed => exact h.not_unclosed
  case not_suppressed => exact hsuppressed
  case not_header =>
    have hheader := h.not_header
    rwa [isControlHeader, ← hheaders] at hheader
  case not_continued => exact h.not_continued
  case required => exact hrequired

end Profile

end Semicolon
