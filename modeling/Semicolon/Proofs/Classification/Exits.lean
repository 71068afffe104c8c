import Semicolon.Proofs.Classification.FirstWord
import Semicolon.Proofs.Pattern.Reading
import Semicolon.Proofs.Text.Trim

/-!
# Classification — statements that leave

A `return`, `throw`, `break` or `continue` is a statement in all languages, with or without a value
behind it.

* `controlException?_of_exit`: none of these words is a control keyword.
* `opens_exit`: the rule for such statements fits each of them that stands on one line.
* `requires_iff_of_exit`: so what is left to ask is how the line ends, and whether it leaves a
  bracket open.

**Main result** (`exit_decided`).  The statement gets a terminator exactly if it has none, leaves no
bracket open and does not continue (`Continues`).
-/

namespace Semicolon

open Text

/-- The line ends in a mark that leaves its statement open; `++` and `--` close one. -/
def Continues (line : Text) : Prop :=
  ¬ "++".toList <:+ line ∧ ¬ "--".toList <:+ line ∧
    ∃ suffix ∈ continuationSuffixes, suffix.toList <:+ line

instance (line : Text) : Decidable (Continues line) :=
  inferInstanceAs (Decidable (_ ∧ _ ∧ ∃ suffix ∈ continuationSuffixes, suffix.toList <:+ line))

/-- No suffix is found exactly if the line does not continue. -/
theorem continuationSuffix?_eq_none_iff {line : Text} :
    continuationSuffix? line = none ↔ ¬ Continues line := by
  have hends : ∀ mark : Text, endsWith line mark = true ↔ mark <:+ line :=
    fun mark => List.isSuffixOf_iff_suffix
  rw [continuationSuffix?, Continues]
  split
  · next hstep =>
    rw [Bool.or_eq_true, hends, hends] at hstep
    refine iff_of_true rfl ?_
    rintro ⟨hplus, hminus, -⟩
    exact hstep.elim hplus hminus
  · next hstep =>
    rw [Bool.or_eq_true, hends, hends, not_or] at hstep
    rw [List.find?_eq_none]
    simp only [hends]
    constructor
    · rintro hnone ⟨-, -, suffix, hsuffix, hend⟩
      exact hnone suffix hsuffix hend
    · intro hnot suffix hsuffix hend
      exact hnot ⟨hstep.1, hstep.2, suffix, hsuffix, hend⟩

/-! ### The words -/

open Pattern in
/-- The shape of a statement that leaves. -/
def exitShape : Pattern := keyword exitWords ++ rest ++ lineEnd

theorem exit_mem_shared : ⟨"exit", exitShape⟩ ∈ Rules.sharedRequire := List.mem_cons_self

/-- No control keyword begins with one of the words. -/
theorem control_shuns_exits (l : Language) : ∀ word ∈ exitWords,
    (Pattern.keyword l.profile.controlKeywords).shuns word.toList = true := by
  cases l <;> decide +kernel

theorem mem_statementWords {word : String} (h : word ∈ exitWords) : word ∈ statementWords :=
  List.mem_cons_of_mem _ h

theorem exit_ne_nil {word : String} (h : word ∈ exitWords) : word.toList ≠ [] := by
  have hall : ∀ w ∈ exitWords, w.toList ≠ [] := by decide
  exact hall word h

/-! ### The questions -/

section

variable {l : Language} {word : String} {line : Text} (hword : word ∈ exitWords)
  (hline : BeginsWith word.toList line)

include hword hline

/-- So a statement that leaves is not exceptional. -/
theorem controlException?_of_exit : l.profile.controlException? line = none := by
  have hopens : l.profile.opensControl line = false :=
    Pattern.opens_of_shuns (control_shuns_exits l word hword)
      (spaced_of_word (all_isWord_of_mem (mem_statementWords hword))) hline
  rw [Profile.controlException?, hopens]
  rfl

/-- A statement that leaves has the shape of one if it stands on one line. -/
theorem opens_exit (hbreak : '\n' ∉ line) : exitShape.opens line = true := by
  obtain ⟨x, rfl, hx⟩ := hline
  have hne := exit_ne_nil hword
  have hlast : word.toList.getLast?.any isWord = true := by
    rw [List.getLast?_eq_some_getLast hne]
    exact all_isWord_of_mem (mem_statementWords hword) _ (List.getLast_mem hne)
  have hbehind : x.head?.any isWord = false := by
    cases hhead : x.head? with
    | none => rfl
    | some c => exact isWord_of_isBlank (hx c hhead)
  refine Pattern.opens_iff.mpr ⟨word.toList ++ x ++ [], [], by simp, .seq (.seq ?_ ?_) .lineEnd⟩
  · exact Pattern.reads_keyword_of_mem hword hlast (by simpa using hbehind)
  · exact Pattern.reads_rest_iff.mpr fun hmem => hbreak (List.mem_append_right _ hmem)

theorem exists_required_of_exit (hbreak : '\n' ∉ line) :
    ∃ rule, Rule.first? l.profile.require line = some rule :=
  Rule.exists_first? (mem_require_of_shared exit_mem_shared l) (opens_exit hword hline hbreak)

/-- All that a rule has to wait for is the end of the statement. -/
theorem requires_iff_of_exit {rule : Rule} :
    l.profile.Requires l.terminator line rule ↔
      (¬ [';'] <:+ line ∧ (Balance.of line).hasUnclosed = false ∧ ¬ Continues line) ∧
      Rule.first? l.profile.require line = some rule := by
  have hbegins : BeginsStatement word line := ⟨mem_statementWords hword, hline⟩
  have hends : endsWith line [l.terminator] = false ↔ ¬ [';'] <:+ line := by
    rw [← Bool.not_eq_true, endsWith, List.isSuffixOf_iff_suffix, Language.terminator]
  constructor
  · intro h
    exact ⟨⟨hends.mp h.not_terminated, h.not_unclosed,
      continuationSuffix?_eq_none_iff.mp h.not_continued⟩, h.required⟩
  · rintro ⟨⟨hterminated, hunclosed, hcontinues⟩, hrule⟩
    constructor
    case not_empty =>
      obtain ⟨x, rfl, -⟩ := hline
      exact List.isEmpty_eq_false_iff.mpr (List.append_ne_nil_of_left_ne_nil (exit_ne_nil hword) x)
    case not_terminated => exact hends.mpr hterminated
    case not_exceptional => exact controlException?_of_exit hword hline
    case not_opened => exact hbegins.not_opened
    case not_unclosed => exact hunclosed
    case not_suppressed => exact hbegins.not_suppressed
    case not_header => exact hbegins.not_header
    case not_continued => exact continuationSuffix?_eq_none_iff.mpr hcontinues
    case required => exact hrule

end

/-! ### The decision -/

/-- A line that begins with `return`, `throw`, `break` or `continue` gets a terminator exactly if it
has none, leaves no bracket open and does not continue. -/
theorem exit_decided {l : Language} {word : String} (hword : word ∈ exitWords) {line : Text}
    (hbreak : '\n' ∉ line) (hline : BeginsWith word.toList line.trim) :
    (l.classify line).decision = .insert ↔
      ¬ [';'] <:+ line.trim ∧ (Balance.of line.trim).hasUnclosed = false ∧
        ¬ Continues line.trim := by
  have hbreak' : '\n' ∉ line.trim := fun hmem => hbreak ((trim_isInfix line).subset hmem)
  rw [Language.classify, Profile.decision_eq_insert_iff]
  simp only [requires_iff_of_exit hword hline, exists_and_left]
  exact and_iff_left (exists_required_of_exit hword hline hbreak')

/-- A step closes its statement, but an arrow leaves one open. -/
theorem exit_decided_of_operators :
    (Language.cpp.classify "\treturn xs[n]++ ".toList).decision = .insert ∧
      (Language.java.classify "throw \"(\" + f ->".toList).decision = .suppress := by
  have hreturn : BeginsWith "return".toList (trim "\treturn xs[n]++ ".toList) :=
    ⟨" xs[n]++".toList, by decide, by rintro c ⟨⟩; rfl⟩
  have hthrow : BeginsWith "throw".toList (trim "throw \"(\" + f ->".toList) :=
    ⟨" \"(\" + f ->".toList, by decide, by rintro c ⟨⟩; rfl⟩
  constructor
  · exact (exit_decided (by decide) (by decide) hreturn).mpr (by decide)
  · cases hdecision : (Language.java.classify "throw \"(\" + f ->".toList).decision with
    | suppress => rfl
    | insert =>
      obtain ⟨-, -, hcontinues⟩ := (exit_decided (by decide) (by decide) hthrow).mp hdecision
      exact absurd (by decide) hcontinues

end Semicolon
