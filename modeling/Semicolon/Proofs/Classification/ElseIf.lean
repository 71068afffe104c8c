import Semicolon.Proofs.Classification.FirstWord
import Semicolon.Proofs.Classification.Headers
import Semicolon.Proofs.Pattern.Beginnings

/-!
# Classification — an `if` behind an `else`

`else if (…)` awaits its body like any other header (`IsElseIf`).  The question that sees to it
wants the two words with one space between them, and no other question knows such a header: it does
not begin with the keyword of one.

* `startsWith_iff`, `controlException?_eq`: of all spacings, only one space is an `else if`.
* `accepts_inline`, `not_break_of_inline`: behind an `else`, the rule for bodies reads `if (…)` as a
  call, as long as it stands on one line.
* `first?_require_eq`: no other requiring rule fits.

**Main result** (`elseIf_decided`).  The decision for every such header, in every language.  With
one space between the words it is suppressed; with any other spacing it gets a terminator as soon as
it has no brace, leaves no bracket open and stands on one line.
-/

namespace Semicolon

open Text

/-- The line is `else`, blanks, `if` and round brackets around `body`. -/
def IsElseIf (gap body line : Text) : Prop :=
  gap ≠ [] ∧ (∀ c ∈ gap, isBlank c = true) ∧
    ∃ header, IsHeader "if" body header ∧ line = "else".toList ++ (gap ++ header)

/-! ### The tables -/

/-- The rule for a body on the line of its header or of its `else`. -/
def inlineRule : Rule :=
  ⟨"inline-body", .oneOf [Rules.headedBody, Rules.elseBody] ++ Pattern.lineEnd⟩

theorem inline_mem_shared : inlineRule ∈ Rules.sharedRequire := by
  simp [Rules.sharedRequire, inlineRule]

/-- No other rule fits an `else` and an `i`. -/
theorem require_avoids_elseIf (l : Language) : ∀ rule ∈ l.profile.require, rule ≠ inlineRule →
    rule.pattern.avoidsSet "else".toList [] (CharSet.of "i") = true := by
  cases l <;> decide +kernel

/-! ### What the body of an `else` reads -/

/-- A text is cut in one place where a character follows that is none of a set. -/
theorem Text.append_cons_inj {p : Char → Bool} {u v x y : Text} {c d : Char}
    (hu : ∀ a ∈ u, p a = true) (hv : ∀ a ∈ v, p a = true) (hc : p c = false) (hd : p d = false)
    (h : u ++ c :: x = v ++ d :: y) : u = v ∧ c :: x = d :: y := by
  have htake := congrArg (List.takeWhile p) h
  rw [List.takeWhile_append_of_pos hu, List.takeWhile_append_of_pos hv,
    List.takeWhile_cons_of_neg (by simp [hc]), List.takeWhile_cons_of_neg (by simp [hd]),
    List.append_nil, List.append_nil] at htake
  exact ⟨htake, List.append_cancel_left (htake ▸ h)⟩

namespace Pattern

/-- What a body reads behind its target. -/
def behindTarget : Pattern := oneOf [parenthesised, Rules.assigned, Rules.step]

/-- What an `else` is followed by. -/
def bodyOfElse : Pattern := oneOf [Rules.leaving, Rules.target ++ blanks ++ behindTarget]

variable {b : Option Char} {body header r : Text}

/-- The whole of `if` is the target, so the rest of it is behind the blanks. -/
theorem behindTarget_of_header (hheader : IsHeader "if" body header)
    (h : Reads b (Rules.target ++ blanks ++ behindTarget) header r) :
    ∃ b, Reads b behindTarget ('(' :: (body ++ [')'])) r := by
  obtain ⟨gap, hgap, rfl⟩ := hheader
  obtain ⟨_, z, hsplit, hfront, hz⟩ := reads_append_iff.mp h
  obtain ⟨t, gap', rfl, htarget, hblanks⟩ := reads_append_iff.mp hfront
  obtain ⟨hne, ht⟩ := reads_many1_set_iff.mp htarget
  have hgap' := reads_blanks_iff.mp hblanks
  have hbars : behindTarget.bars (CharSet.wordBlankOr "") = true := by decide
  obtain ⟨d, z, rfl, hd⟩ := hz.exists_cons hbars
  simp only [CharSet.wordBlankOr, CharSet.contains, CharSet.Part.contains, List.any_cons,
    Bool.bne_false, Bool.or_eq_false_iff] at hd
  obtain ⟨hword, hblank, -⟩ := hd
  rw [List.append_assoc] at hsplit
  rcases t with _ | ⟨c, _ | ⟨c', t⟩⟩
  · exact absurd rfl hne
  · -- an `f` would stand behind the target
    have hbehind : 'f' :: (gap ++ '(' :: (body ++ [')'])) = gap' ++ d :: z :=
      (List.cons.inj hsplit).2
    have hf := Text.append_cons_inj (u := []) (by simp) hgap' (by decide) hblank hbehind
    rw [← (List.cons.inj hf.2).1] at hword
    exact absurd hword (by decide)
  · have hbehind : gap ++ '(' :: (body ++ [')']) = t ++ (gap' ++ d :: z) :=
      (List.cons.inj (List.cons.inj hsplit).2).2
    cases t with
    | nil =>
      obtain ⟨-, hrest⟩ := Text.append_cons_inj hgap hgap' (by decide) hblank hbehind
      exact ⟨_, hrest ▸ hz⟩
    | cons e t =>
      -- what follows the `f` belongs to no target
      have he := ht e (by simp)
      cases gap with
      | nil =>
        rw [← (List.cons.inj hbehind).1] at he
        exact absurd he (by decide)
      | cons g gap =>
        rw [← (List.cons.inj hbehind).1] at he
        have hg := CharSet.not_blank_of_contains (by decide) he
        rw [hgap g List.mem_cons_self] at hg
        cases hg

/-- A header is read as a body on one line only. -/
theorem bodyOfElse_of_header (hheader : IsHeader "if" body header)
    (h : Reads b bodyOfElse header r) : '\n' ∉ body := by
  obtain ⟨p, hp, hread⟩ := reads_oneOf_iff.mp h
  rcases List.mem_pair.mp hp with rfl | rfl
  · obtain ⟨blanks, -, rfl⟩ := hheader
    have hbars : Rules.leaving.bars (CharSet.of "i") = true := by decide
    exact absurd hread (not_reads_of_bars hbars (by decide))
  · obtain ⟨b, hbehind⟩ := behindTarget_of_header hheader hread
    obtain ⟨q, hq, hread⟩ := reads_oneOf_iff.mp hbehind
    rcases List.mem_cons.mp hq with rfl | hq
    · obtain ⟨v, hv, hbreak⟩ := reads_parenthesised_iff.mp hread
      rwa [List.append_cancel_right (List.cons.inj hv).2]
    · have hbars : (oneOf [Rules.assigned, Rules.step]).bars (CharSet.of "(") = true := by decide
      have hother := reads_oneOf_iff.mpr ⟨q, hq, hread⟩
      exact absurd hother (not_reads_of_bars hbars (by decide))

end Pattern

namespace IsElseIf

variable {l : Language} {gap body line : Text}

theorem beginsStatement (h : IsElseIf gap body line) : BeginsStatement "else" line := by
  obtain ⟨hne, hgap, header, -, rfl⟩ := h
  refine ⟨List.mem_cons_self, gap ++ header, rfl, ?_⟩
  intro c hc
  rw [List.head?_append_of_ne_nil _ hne] at hc
  exact hgap c (List.mem_of_head? hc)

theorem getLast?_eq (h : IsElseIf gap body line) : line.getLast? = some ')' := by
  obtain ⟨-, -, header, hheader, rfl⟩ := h
  rw [List.getLast?_append, List.getLast?_append, hheader.getLast?_eq]
  rfl

theorem mem_iff (h : IsElseIf gap body line) : '{' ∈ line ↔ '{' ∈ body := by
  obtain ⟨-, hgap, header, hheader, rfl⟩ := h
  have hnot : '{' ∉ gap := fun hmem => absurd (hgap _ hmem) (by decide)
  have hif : IsHeaderWord "if".toList := isHeaderWord_of_mem (l := .java) (by decide)
  simp [hnot, hheader.mem_iff hif]

/-! ### The control keyword -/

theorem opensControl_eq (h : IsElseIf gap body line) (l : Language) :
    l.profile.opensControl line = true := by
  obtain ⟨hne, hgap, header, -, rfl⟩ := h
  obtain ⟨c, gap, rfl⟩ := List.exists_cons_of_ne_nil hne
  exact opensControl_of_else l (isWord_of_isBlank (hgap c List.mem_cons_self))

/-- Of all spacings, only one space is an `else if`. -/
theorem startsWith_iff (h : IsElseIf gap body line) :
    startsWith line "else if".toList = true ↔ gap = [' '] := by
  obtain ⟨hne, hgap, header, ⟨blanks, -, rfl⟩, rfl⟩ := h
  have hsplit : "else if".toList = "else".toList ++ ' ' :: "if".toList := rfl
  rw [Text.startsWith_iff, hsplit, List.prefix_append_right_inj]
  constructor
  · intro hprefix
    cases gap with
    | nil => exact absurd rfl hne
    | cons c gap =>
      rw [List.cons_append, List.cons_prefix_cons] at hprefix
      obtain ⟨rfl, hif⟩ := hprefix
      cases gap with
      | nil => rfl
      | cons d gap =>
        -- a second blank stands where the `i` should
        have hd : 'i' = d := (List.cons_prefix_cons.mp hif).1
        exact absurd (hgap d (by simp)) (by rw [← hd]; decide)
  · rintro rfl
    exact List.cons_prefix_cons.mpr ⟨rfl, List.prefix_append _ _⟩

theorem controlException?_eq (h : IsElseIf gap body line) :
    l.profile.controlException? line =
      if gap = [' '] then some .elseIf
      else if '{' ∈ body then some .braceOnControlLine
      else none := by
  have helse : line ≠ "else".toList := by
    rintro rfl
    exact absurd h.getLast?_eq (by decide)
  have hspace : startsWith line "else if".toList = decide (gap = [' ']) := by
    rw [Bool.eq_iff_iff, h.startsWith_iff, decide_eq_true_eq]
  rw [Profile.controlException?, h.opensControl_eq, if_neg helse, hspace,
    not_bare_of_bracket h.getLast?_eq]
  simp [h.mem_iff]

/-! ### The requiring rules -/

/-- `if (…)` is read as a call in the body of the `else`. -/
theorem accepts_inline (h : IsElseIf gap body line) (hbody : '\n' ∉ body) :
    inlineRule.accepts line = true := by
  obtain ⟨hne, hgap, header, ⟨blanks, hblanks, rfl⟩, rfl⟩ := h
  have hif : ∀ c ∈ "if".toList, Rules.targetChars.contains c = true :=
    List.all_eq_true.mp (by decide)
  have hcall : Pattern.Reads (("else".toList ++ gap).getLast?.or none)
      (Rules.target ++ Pattern.blanks ++ Pattern.behindTarget)
      ("if".toList ++ blanks ++ '(' :: (body ++ [')'])) [] :=
    .seq (.seq (Pattern.reads_many1_set_iff.mpr ⟨by decide, hif⟩)
        (Pattern.reads_blanks_iff.mpr hblanks))
      (Pattern.reads_oneOf_iff.mpr
        ⟨_, List.mem_cons_self, Pattern.reads_parenthesised_iff.mpr ⟨body, rfl, hbody⟩⟩)
  have helse : Pattern.Reads none Rules.elseBody
      ("else".toList ++ gap ++ ("if".toList ++ blanks ++ '(' :: (body ++ [')']))) [] :=
    .seq (.seq (Pattern.reads_word_iff.mpr rfl) (Pattern.reads_blanks1_iff.mpr ⟨hne, hgap⟩))
      (Pattern.reads_oneOf_iff.mpr ⟨_, List.mem_cons_of_mem _ List.mem_cons_self, hcall⟩)
  refine Pattern.opens_iff.mpr ⟨_, [], ?_, .seq
    (Pattern.reads_oneOf_iff.mpr ⟨_, List.mem_cons_of_mem _ List.mem_cons_self, helse⟩) .lineEnd⟩
  simp

/-- A header on several lines is not read so. -/
theorem not_break_of_inline (h : IsElseIf gap body line) (hline : inlineRule.accepts line = true) :
    '\n' ∉ body := by
  obtain ⟨-, hgap, header, hheader, rfl⟩ := h
  obtain ⟨t, r, ht, hreads⟩ := Pattern.opens_iff.mp hline
  obtain ⟨u, v, rfl, hbodies, hend⟩ := Pattern.reads_append_iff.mp hreads
  obtain ⟨rfl, rfl⟩ := Pattern.reads_lineEnd_iff.mp hend
  obtain ⟨p, hp, hread⟩ := Pattern.reads_oneOf_iff.mp hbodies
  rw [List.append_nil, List.append_nil] at ht
  rcases List.mem_pair.mp hp with rfl | rfl
  · have hbars : Rules.headedBody.bars (CharSet.of "e") = true := by decide
    rw [← ht] at hread
    exact absurd hread (Pattern.not_reads_of_bars hbars (by decide))
  · obtain ⟨_, tail, rfl, hfront, htail⟩ := Pattern.reads_append_iff.mp hread
    obtain ⟨_, gap', rfl, helse, hblanks⟩ := Pattern.reads_append_iff.mp hfront
    obtain rfl := Pattern.reads_word_iff.mp helse
    obtain ⟨-, hgap'⟩ := Pattern.reads_blanks1_iff.mp hblanks
    have hbars : Pattern.bodyOfElse.bars CharSet.blank = true := by decide
    obtain ⟨c, x, rfl, hc⟩ := Pattern.Reads.exists_cons htail hbars
    rw [Pattern.contains_blank] at hc
    have hsplit : gap ++ header = gap' ++ c :: x := by
      rw [List.append_assoc] at ht
      exact List.append_cancel_left ht
    have hheader' : header = c :: x := by
      obtain ⟨blanks, -, rfl⟩ := hheader
      exact (Text.append_cons_inj hgap hgap' (by decide) hc hsplit).2
    exact Pattern.bodyOfElse_of_header hheader (hheader' ▸ htail)

theorem first?_require_eq (h : IsElseIf gap body line) :
    Rule.first? l.profile.require line = if '\n' ∈ body then none else some inlineRule := by
  have honly : ∀ rule ∈ l.profile.require, rule.accepts line = true → rule = inlineRule := by
    intro rule hrule haccepts
    by_contra hother
    obtain ⟨hne, hgap, header, ⟨blanks, -, rfl⟩, rfl⟩ := h
    have hrejects := Pattern.opens_of_avoidsSet (c := 'i')
      (require_avoids_elseIf l rule hrule hother) rfl rfl hne hgap rfl rfl
      ('f' :: (blanks ++ '(' :: (body ++ [')'])))
    rw [Rule.accepts] at haccepts
    exact Bool.false_ne_true (hrejects.symm.trans haccepts)
  split
  · next hbreak =>
    rw [Rule.first?_eq_none_iff]
    intro rule hrule
    rw [← Bool.not_eq_true]
    intro haccepts
    exact h.not_break_of_inline (honly rule hrule haccepts ▸ haccepts) hbreak
  · next hbreak =>
    obtain ⟨rule, hfirst⟩ := Rule.exists_first? (mem_require_of_shared inline_mem_shared l)
      (h.accepts_inline hbreak)
    obtain ⟨hrule, haccepts⟩ := Rule.first?_eq_some hfirst
    rw [hfirst, honly rule hrule haccepts]

end IsElseIf

/-! ### The decision -/

/-- An `else if` with one space is suppressed for what it is; with any other spacing, only for a
brace, an open bracket or a line break. -/
theorem elseIf_decided {l : Language} {gap body line : Text} (h : IsElseIf gap body line.trim) :
    l.classify line =
      if gap = [' '] then .suppress .elseIf
      else if '{' ∈ body then .suppress .braceOnControlLine
      else if (Balance.of line.trim).hasUnclosed then .suppress .unclosedDelimiter
      else if '\n' ∈ body then .suppress .unrecognized
      else .insert "inline-body" := by
  have hbegins := h.beginsStatement
  have hlast := h.getLast?_eq
  rw [Language.classify, Profile.classifyTrimmed, isEmpty_of_bracket hlast,
    not_terminated_of_bracket hlast, h.controlException?_eq]
  by_cases hgap : gap = [' ']
  · rw [if_pos hgap, if_pos hgap]
    rfl
  · rw [if_neg hgap, if_neg hgap]
    by_cases hbrace : '{' ∈ body
    · rw [if_pos hbrace, if_pos hbrace]
      rfl
    · rw [if_neg hbrace, if_neg hbrace, hbegins.not_opened, hbegins.not_suppressed,
        hbegins.not_header, continuationSuffix?_of_bracket hlast, h.first?_require_eq]
      by_cases hbreak : '\n' ∈ body
      · rw [if_pos hbreak, if_pos hbreak]
        rfl
      · rw [if_neg hbreak, if_neg hbreak]
        rfl

/-- The first header awaits its body.  The second is cut off from it, though it only has a tab where
the first has a space. -/
theorem elseIf_decided_of_tab :
    Language.cSharp.classify " else if(f(x)) ".toList = .suppress .elseIf ∧
      Language.java.classify "else\tif (ready)".toList = .insert "inline-body" := by
  have hspace : IsElseIf [' '] "f(x)".toList (trim " else if(f(x)) ".toList) :=
    ⟨by decide, List.all_eq_true.mp (by decide), "if(f(x))".toList,
      ⟨[], List.all_eq_true.mp (by decide), by decide⟩, by decide⟩
  have htab : IsElseIf ['\t'] "ready".toList (trim "else\tif (ready)".toList) :=
    ⟨by decide, List.all_eq_true.mp (by decide), "if (ready)".toList,
      ⟨[' '], List.all_eq_true.mp (by decide), by decide⟩, by decide⟩
  exact ⟨(elseIf_decided hspace).trans (by decide), (elseIf_decided htab).trans (by decide)⟩

/-- Two spaces are enough for a terminator between a header and its body. -/
theorem elseIf_terminated_of_spaces :
    let line := "else  if (x)".toList
    IsElseIf [' ', ' '] "x".toList (trim line) ∧
      Language.javaScript.classify line = .insert "inline-body" :=
  ⟨⟨by decide, List.all_eq_true.mp (by decide), "if (x)".toList,
    ⟨[' '], List.all_eq_true.mp (by decide), by decide⟩, by decide⟩, by decide⟩

end Semicolon
