import Semicolon.Proofs.Classification.Insertion
import Semicolon.Proofs.Pattern.Prefixes
import Semicolon.Proofs.Text.Marks

/-!
# Classification — headers that end in a round bracket

A header is a keyword with round brackets around anything (`IsHeader`).  It awaits its body, so it
should get no terminator.  But the question that sees to it, `Profile.isControlHeader`, wants the
brackets of the line balanced, and a bracket in a regular expression counts like any other.

* `IsHeader.controlException?_eq_none_iff`: only a brace makes a header exceptional.
* `IsHeader.not_suppressed`, `IsHeader.not_opened`: no suppressing rule fits a header, and it opens
  no block unless it is exceptional.
* `IsHeader.opens_call`: the rule for calls fits it.

**Main result** (`header_decided`).  A header whose round brackets are balanced, or opened more
often than closed, is suppressed.  A header on one line that closes more of them gets a terminator,
unless another kind of bracket is left open or a control keyword has a brace behind it.
-/

namespace Semicolon

open Text

/-- The line is a keyword and round brackets around `body`, with or without blanks between them. -/
def IsHeader (keyword : String) (body line : Text) : Prop :=
  ∃ blanks, (∀ c ∈ blanks, isBlank c = true) ∧
    line = keyword.toList ++ (blanks ++ '(' :: (body ++ [')']))

/-! ### The header keywords -/

/-- What the keyword of a header is: a word, but not an `else`. -/
structure IsHeaderWord (word : Text) : Prop where
  ne_nil : word ≠ []
  all_word : ∀ c ∈ word, isWord c = true
  not_else : word.head? ≠ some 'e'

namespace IsHeaderWord

variable {word : Text}

theorem last_word (h : IsHeaderWord word) : word.getLast?.any isWord = true := by
  rw [List.getLast?_eq_some_getLast h.ne_nil]
  exact h.all_word _ (List.getLast_mem h.ne_nil)

theorem no_brace (h : IsHeaderWord word) : '{' ∉ word :=
  fun hmem => absurd (h.all_word _ hmem) (by decide)

end IsHeaderWord

theorem isHeaderWord_of_mem {l : Language} {keyword : String}
    (h : keyword ∈ l.profile.headerKeywords) : IsHeaderWord keyword.toList := by
  have hall : ∀ k ∈ l.profile.headerKeywords, k.toList ≠ [] ∧
      k.toList.all isWord = true ∧ k.toList.head? ≠ some 'e' := by
    cases l <;> decide
  obtain ⟨hne, hword, helse⟩ := hall keyword h
  exact ⟨hne, List.all_eq_true.mp hword, helse⟩

theorem no_bracket_in_keywords (l : Language) :
    ∀ k ∈ l.profile.controlKeywords, k.toList.getLast? ≠ some ')' := by
  cases l <;> decide

/-- No suppressing rule fits a keyword and a round bracket. -/
theorem suppress_avoids_headers (l : Language) : ∀ keyword ∈ l.profile.headerKeywords,
    ∀ rule ∈ l.profile.suppress, rule.pattern.takesSpaces = true ∧
      rule.pattern.avoids keyword.toList ['('] = true := by
  cases l <;> decide +kernel

/-- A header keyword that is no control keyword begins neither a declaration nor another keyword. -/
theorem declaration_avoids_headers (l : Language) : ∀ keyword ∈ l.profile.headerKeywords,
    keyword ∉ l.profile.controlKeywords →
      ∀ p ∈ [l.profile.declaration, .keyword l.profile.controlKeywords],
        p.takesSpaces = true ∧ p.avoids keyword.toList ['('] = true := by
  cases l <;> decide +kernel

open Pattern in
/-- The shape of a call, possibly of a constructor. -/
def callShape : Pattern :=
  optional (modifier ["await", "new"]) ++ many1 (CharSet.wordOr "$.:[]<>?!-") ++ blanks
    ++ parenthesised ++ lineEnd

theorem call_mem_shared : ⟨"call", callShape⟩ ∈ Rules.sharedRequire := by
  simp [Rules.sharedRequire, callShape]

/-! ### Lines that end in a round bracket -/

section

variable {l : Language} {line : Text} (hlast : line.getLast? = some ')')

include hlast

theorem isEmpty_of_bracket : line.isEmpty = false := by
  rw [List.isEmpty_eq_false_iff]
  rintro rfl
  cases hlast

theorem not_terminated_of_bracket : endsWith line [l.terminator] = false :=
  endsWith_eq_false (List.cons_ne_nil _ _) (by cases l <;> decide) hlast

theorem not_bare_of_bracket :
    l.profile.controlKeywords.any (fun k => decide (k.toList = line)) = false := by
  rw [List.any_eq_false]
  rintro k hmem heq
  rw [decide_eq_true_eq] at heq
  exact no_bracket_in_keywords l k hmem (by rw [heq, hlast])

/-- A closing round bracket ends no suffix of the table. -/
theorem continuationSuffix?_of_bracket : continuationSuffix? line = none := by
  have hall : ∀ suffix ∈ continuationSuffixes,
      suffix.toList ≠ [] ∧ suffix.toList.getLast? ≠ some ')' := by decide
  rw [continuationSuffix?]
  split
  · rfl
  · rw [List.find?_eq_none]
    intro suffix hsuffix
    obtain ⟨hne, hend⟩ := hall suffix hsuffix
    rw [endsWith_eq_false hne hend hlast]
    exact Bool.false_ne_true

end

/-! ### The questions -/

namespace IsHeader

variable {l : Language} {keyword : String} {body line : Text}

theorem getLast?_eq (h : IsHeader keyword body line) : line.getLast? = some ')' := by
  obtain ⟨blanks, -, rfl⟩ := h
  have hconcat : keyword.toList ++ (blanks ++ '(' :: (body ++ [')'])) =
      (keyword.toList ++ (blanks ++ '(' :: body)) ++ [')'] := by simp
  rw [hconcat, List.getLast?_concat]

theorem mem_iff (h : IsHeader keyword body line) (hword : IsHeaderWord keyword.toList) :
    '{' ∈ line ↔ '{' ∈ body := by
  obtain ⟨blanks, hblanks, rfl⟩ := h
  have hnot : '{' ∉ blanks := fun hmem => absurd (hblanks _ hmem) (by decide)
  simp [hword.no_brace, hnot]

/-- A pattern that avoids the keyword and a round bracket does not open the header. -/
theorem opens_of_avoids (h : IsHeader keyword body line) (hword : IsHeaderWord keyword.toList)
    {p : Pattern} (hp : p.takesSpaces = true ∧ p.avoids keyword.toList ['('] = true) :
    p.opens line = false := by
  obtain ⟨blanks, hblanks, rfl⟩ := h
  exact Pattern.opens_of_avoids hp.1 hp.2 (spaced_of_word hword.all_word) rfl hblanks
    (body ++ [')'])

/-- A control keyword is read up to the blank or the bracket behind it. -/
theorem opensControl_eq (h : IsHeader keyword body line) (hword : IsHeaderWord keyword.toList)
    {p : Profile} (hcontrol : keyword ∈ p.controlKeywords) : p.opensControl line = true := by
  obtain ⟨blanks, hblanks, rfl⟩ := h
  have hbehind : (blanks ++ '(' :: (body ++ [')'])).head?.any isWord = false := by
    cases blanks with
    | nil => rfl
    | cons c blanks => exact isWord_of_isBlank (hblanks c List.mem_cons_self)
  exact Pattern.opens_iff.mpr
    ⟨_, _, rfl, Pattern.reads_keyword_of_mem hcontrol hword.last_word hbehind⟩

theorem not_startsWith_else (h : IsHeader keyword body line)
    (hword : IsHeaderWord keyword.toList) : startsWith line "else if".toList = false := by
  rw [startsWith_eq_false_iff]
  rintro ⟨r, hr⟩
  obtain ⟨blanks, -, rfl⟩ := h
  cases hk : keyword.toList with
  | nil =>
    have hlast := hword.last_word
    rw [hk] at hlast
    cases hlast
  | cons c k =>
    rw [hk] at hr
    exact hword.not_else (by rw [hk, ← (List.cons.inj hr).1]; rfl)

/-- A header is exceptional if it begins with a control keyword and has a brace. -/
theorem controlException?_eq_none_iff (h : IsHeader keyword body line)
    (hk : keyword ∈ l.profile.headerKeywords) :
    l.profile.controlException? line = none ↔
      (keyword ∈ l.profile.controlKeywords → '{' ∉ body) := by
  have hword := isHeaderWord_of_mem hk
  rw [Profile.controlException?]
  by_cases hcontrol : keyword ∈ l.profile.controlKeywords
  · have helse : line ≠ "else".toList := by
      rintro rfl
      exact absurd h.getLast?_eq (by decide)
    rw [h.opensControl_eq hword hcontrol, if_neg helse, h.not_startsWith_else hword,
      not_bare_of_bracket h.getLast?_eq]
    by_cases hbrace : '{' ∈ body
    · simp [(h.mem_iff hword).mpr hbrace, hcontrol, hbrace]
    · have hline : '{' ∉ line := fun hmem => hbrace ((h.mem_iff hword).mp hmem)
      simp [hline, hbrace]
  · -- a header keyword that is no control keyword opens no control statement
    have hopens : l.profile.opensControl line = false :=
      h.opens_of_avoids hword (declaration_avoids_headers l keyword hk hcontrol _ (by simp))
    simp [hopens, hcontrol]

theorem not_opened (h : IsHeader keyword body line) (hk : keyword ∈ l.profile.headerKeywords)
    (hbrace : keyword ∈ l.profile.controlKeywords → '{' ∉ body) :
    (l.profile.declaration.opens line && opensBlock line) = false := by
  have hword := isHeaderWord_of_mem hk
  by_cases hcontrol : keyword ∈ l.profile.controlKeywords
  · have hline : '{' ∉ line := fun hmem => hbrace hcontrol ((h.mem_iff hword).mp hmem)
    simp [opensBlock, hline]
  · rw [h.opens_of_avoids hword (declaration_avoids_headers l keyword hk hcontrol _ (by simp))]
    rfl

/-- No suppressing rule fits a header. -/
theorem not_suppressed (h : IsHeader keyword body line)
    (hk : keyword ∈ l.profile.headerKeywords) : Rule.first? l.profile.suppress line = none := by
  rw [Rule.first?_eq_none_iff]
  intro rule hrule
  exact h.opens_of_avoids (isHeaderWord_of_mem hk) (suppress_avoids_headers l keyword hk rule hrule)

/-- The question for headers comes down to the round brackets of the line. -/
theorem isControlHeader_eq (h : IsHeader keyword body line)
    (hk : keyword ∈ l.profile.headerKeywords) :
    l.profile.isControlHeader line = decide ((Balance.of line).parens = 0) := by
  have hend : endsWith line [')'] = true := by
    obtain ⟨t, rfl⟩ := List.getLast?_eq_some_iff.mp h.getLast?_eq
    exact List.isSuffixOf_iff_suffix.mpr (List.suffix_append t _)
  have hheaded : l.profile.headerKeywords.any (Profile.isHeaded line) = true := by
    refine List.any_eq_true.mpr ⟨keyword, hk, ?_⟩
    obtain ⟨blanks, hblanks, rfl⟩ := h
    rw [Profile.isHeaded, List.drop_left, Bool.and_eq_true, startsWith_iff, startsWith_iff]
    refine ⟨List.prefix_append .., ?_⟩
    rw [trimStart, List.dropWhile_append_of_pos hblanks,
      List.dropWhile_cons_of_neg (by decide)]
    exact List.prefix_append ['('] _
  rw [Profile.isControlHeader, hend, hheaded, Bool.true_and, Bool.and_true]

/-- A header on one line is shaped like a call. -/
theorem opens_call (h : IsHeader keyword body line) (hword : IsHeaderWord keyword.toList)
    (hbody : '\n' ∉ body) : callShape.opens line = true := by
  obtain ⟨blanks, hblanks, rfl⟩ := h
  have hname : ∀ c ∈ keyword.toList, (CharSet.wordOr "$.:[]<>?!-").contains c = true := by
    intro c hc
    simp [CharSet.wordOr, CharSet.contains, CharSet.Part.contains, hword.all_word c hc]
  refine Pattern.opens_iff.mpr ⟨_, [], ?_, .seq (.seq (.seq (.seq
    (Pattern.reads_optional_iff.mpr (.inr rfl))
    (Pattern.reads_many1_set_iff.mpr ⟨hword.ne_nil, hname⟩))
    (Pattern.reads_blanks_iff.mpr hblanks))
    (Pattern.reads_parenthesised_iff.mpr ⟨body, rfl, hbody⟩))
    .lineEnd⟩
  simp

/-- One of the requiring rules accepts a header on one line. -/
theorem exists_required (h : IsHeader keyword body line)
    (hk : keyword ∈ l.profile.headerKeywords) (hbody : '\n' ∉ body) :
    ∃ rule, Rule.first? l.profile.require line = some rule :=
  Rule.exists_first? (mem_require_of_shared call_mem_shared l)
    (h.opens_call (isHeaderWord_of_mem hk) hbody)

/-- All that a rule has to wait for is that the line closes more round brackets than it opens, and
leaves nothing else open. -/
theorem requires_iff (h : IsHeader keyword body line) (hk : keyword ∈ l.profile.headerKeywords)
    {rule : Rule} :
    l.profile.Requires l.terminator line rule ↔
      ((Balance.of line).parens < 0 ∧ (Balance.of line).brackets ≤ 0 ∧
        (Balance.of line).braces ≤ 0 ∧ (keyword ∈ l.profile.controlKeywords → '{' ∉ body)) ∧
      Rule.first? l.profile.require line = some rule := by
  constructor
  · intro hrequires
    obtain ⟨hparens, hbrackets, hbraces⟩ :=
      Balance.hasUnclosed_eq_false_iff.mp hrequires.not_unclosed
    have hunbalanced := hrequires.not_header
    rw [h.isControlHeader_eq hk, decide_eq_false_iff_not] at hunbalanced
    exact ⟨⟨Int.lt_iff_le_and_ne.mpr ⟨hparens, hunbalanced⟩, hbrackets, hbraces,
      (h.controlException?_eq_none_iff hk).mp hrequires.not_exceptional⟩, hrequires.required⟩
  · rintro ⟨⟨hparens, hbrackets, hbraces, hbrace⟩, hrule⟩
    constructor
    case not_empty => exact isEmpty_of_bracket h.getLast?_eq
    case not_terminated => exact not_terminated_of_bracket h.getLast?_eq
    case not_exceptional => exact (h.controlException?_eq_none_iff hk).mpr hbrace
    case not_opened => exact h.not_opened hk hbrace
    case not_unclosed =>
      exact Balance.hasUnclosed_eq_false_iff.mpr ⟨Int.le_of_lt hparens, hbrackets, hbraces⟩
    case not_suppressed => exact h.not_suppressed hk
    case not_header =>
      rw [h.isControlHeader_eq hk, decide_eq_false_iff_not]
      exact Int.ne_of_lt hparens
    case not_continued => exact continuationSuffix?_of_bracket h.getLast?_eq
    case required => exact hrule

end IsHeader

/-! ### Headers -/

/-- A header whose round brackets are not closed more often than opened gets no terminator.  Any
other header on one line gets one, unless another kind of bracket is left open or a brace stands
behind a control keyword. -/
theorem header_decided {l : Language} {keyword : String}
    (hk : keyword ∈ l.profile.headerKeywords) {line body : Text}
    (h : IsHeader keyword body line.trim) :
    (0 ≤ (Balance.of line.trim).parens → (l.classify line).decision = .suppress) ∧
    ('\n' ∉ body → ((l.classify line).decision = .insert ↔
      (Balance.of line.trim).parens < 0 ∧ (Balance.of line.trim).brackets ≤ 0 ∧
      (Balance.of line.trim).braces ≤ 0 ∧
      (keyword ∈ l.profile.controlKeywords → '{' ∉ body))) := by
  constructor
  · intro hparens
    cases hdecision : (l.classify line).decision with
    | suppress => rfl
    | insert =>
      obtain ⟨rule, hrequires⟩ := Profile.exists_requires hdecision
      obtain ⟨⟨hsurplus, -⟩, -⟩ := (h.requires_iff hk).mp hrequires
      exact absurd hparens (Int.not_le.mpr hsurplus)
  · intro hbody
    rw [Language.classify, Profile.decision_eq_insert_iff]
    simp only [h.requires_iff hk, exists_and_left]
    exact and_iff_left (h.exists_required hk hbody)

/-- The first header awaits its body.  The second closes one bracket too many, and its braces do not
count, as `using` is no control keyword. -/
theorem header_decided_of_surplus :
    (Language.java.classify " while\t (f(x)) ".toList).decision = .suppress ∧
      (Language.cSharp.classify "using (new A{}))".toList).decision = .insert := by
  have hwhile : IsHeader "while" "f(x)".toList (trim " while\t (f(x)) ".toList) :=
    ⟨"\t ".toList, List.all_eq_true.mp (by decide), by decide⟩
  have husing : IsHeader "using" "new A{})".toList (trim "using (new A{}))".toList) :=
    ⟨[' '], List.all_eq_true.mp (by decide), by decide⟩
  exact ⟨(header_decided (by decide) hwhile).1 (by decide),
    ((header_decided (by decide) husing).2 (by decide)).mpr (by decide)⟩

/-- A bracket in a regular expression is counted, so the header gets a terminator. -/
theorem header_terminated_of_regex :
    let line := "if (/\\)/.test(s))".toList
    "if" ∈ Language.javaScript.profile.headerKeywords ∧
      IsHeader "if" "/\\)/.test(s)".toList (trim line) ∧
      Language.javaScript.classify line = .insert "call" :=
  ⟨by decide, ⟨[' '], List.all_eq_true.mp (by decide), by decide⟩, by decide⟩

end Semicolon
