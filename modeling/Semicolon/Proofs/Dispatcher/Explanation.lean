import Semicolon.FileRun
import Semicolon.Proofs.Dispatcher.Breaks

/-!
# Dispatcher — a decision in an editor and the same line alone

`explain` decides a line alone, the dispatcher decides it where it stands.

* `classifyLine_cases`: what stands around the line can only suppress, and then the reason names it.
* `classifyLine_of_code`: otherwise the line is decided as it is alone.

**Main result** (`decision_explained`).  Every verdict agrees with the explanation of its line, but
where the line is a comment or the cursor is inside of a string or a comment.  So no line gets a
terminator that would not get it alone; and where no quote stands up to the end of the line, and no
comment begins on it, the two always agree.
-/

namespace Semicolon
open Text

/-! ### A line alone -/

theorem Language.classify_trim (l : Language) (t : Text) : l.classify t.trim = l.classify t := by
  rw [classify, classify, trim_trim]

theorem explain_eq (settings : Settings) (l : Language) (line : Text) :
    explain settings l line =
      ⟨l, line.trim, (settings.uncomment line).trim, l.classify (settings.uncomment line)⟩ := by
  rw [explain, Comment.stripFor_id]
  rfl

/-! ### A line where it stands -/

section

variable {settings : Settings} {l : Language} {front left raw : Text}

/-- A blank line is one where it stands and alone: stripping leaves it as it is. -/
theorem classifyLine_of_blank (hblank : raw.trim = []) :
    classifyLine settings l front left raw = l.classify (settings.uncomment raw) := by
  have huncomment : settings.uncomment raw = raw := by
    rw [Settings.uncomment,
      (Comment.markless_of_blank (trim_eq_nil_iff.mp hblank)).strip_eq, ite_self]
  have halone : l.classify raw = .suppress .empty := by
    rw [Language.classify, hblank]
    rfl
  rw [classifyLine, huncomment, hblank, halone]
  rfl

/-- A line that is no comment, left at a place outside of strings and comments. -/
theorem classifyLine_of_code (hleads : Comment.leads raw.trim = false)
    (hstring : (settings.skipStrings && Literal.endsInside (front ++ left)) = false)
    (hcomment : (settings.skipComments && Comment.endsInside left) = false) :
    classifyLine settings l front left raw = l.classify (settings.uncomment raw) := by
  by_cases hblank : raw.trim = []
  · exact classifyLine_of_blank hblank
  · have hnot : raw.trim.isEmpty = false := by simpa using hblank
    rw [classifyLine, hnot, hleads, hstring, hcomment, Language.classify_trim]
    rfl

/-- What stands around a line can only suppress. -/
theorem classifyLine_cases (settings : Settings) (l : Language) (front left raw : Text) :
    (∃ reason ∈ [Reason.commentLine, .insideString, .insideComment],
      classifyLine settings l front left raw = .suppress reason) ∨
    classifyLine settings l front left raw = l.classify (settings.uncomment raw) := by
  by_cases hblank : raw.trim = []
  · exact .inr (classifyLine_of_blank hblank)
  have hnot : raw.trim.isEmpty = false := by simpa using hblank
  cases hleads : Comment.leads raw.trim with
  | true => exact .inl ⟨.commentLine, by decide, by rw [classifyLine, hnot, hleads]; rfl⟩
  | false =>
    cases hstring : settings.skipStrings && Literal.endsInside (front ++ left) with
    | true =>
      exact .inl ⟨.insideString, by decide, by rw [classifyLine, hnot, hleads, hstring]; rfl⟩
    | false =>
      cases hcomment : settings.skipComments && Comment.endsInside left with
      | true =>
        refine .inl ⟨.insideComment, by decide, ?_⟩
        rw [classifyLine, hnot, hleads, hstring, hcomment]
        rfl
      | false => exact .inr (classifyLine_of_code hleads hstring hcomment)

/-- Without quotes in front of the place, and without comments on the line, there is nothing to
suppress it but the line. -/
theorem classifyLine_of_markless (hquotes : Literal.Quoteless (front ++ left))
    (hmarks : Comment.Markless raw) (hstar : ¬ ['*'] <+: raw.trim) (hleft : left <+: raw) :
    classifyLine settings l front left raw = l.classify (settings.uncomment raw) := by
  have hleftStar : ¬ ['*'] <+: left.trimStart := by
    intro hin
    obtain ⟨right, rfl⟩ := hleft
    have hne : left.trimStart ≠ [] := fun hnil => by simp [hnil] at hin
    have hraw : ['*'] <+: (left ++ right).trimStart := by
      rw [trimStart_append hne]
      exact hin.trans (List.prefix_append ..)
    exact hstar (singleton_prefix_trim (by decide) hraw)
  refine classifyLine_of_code ((hmarks.of_isInfix (trim_isInfix raw)).leads_eq hstar) ?_ ?_
  · rw [hquotes.endsInside_eq, Bool.and_false]
  · rw [(hmarks.of_isInfix hleft.isInfix).endsInside_eq hleftStar, Bool.and_false]

end

/-! ### Verdicts -/

/-- The verdict says about its line what is said about the line alone. -/
structure Verdict.Agrees (v : Verdict) (e : Explanation) : Prop where
  classification_eq : v.classification = e.classification
  trimmed_eq : v.snapshot.trimmed = e.line
  stripped_eq : v.snapshot.stripped = e.stripped

namespace Dispatcher

variable {settings : Settings} {l : Language} {d : Document} {before : List Text}
  {stem returns : Text} {column : Nat}

/-- The lines are always the same, so only the decisions may differ. -/
theorem breakVerdict_agrees (h : classifyLine settings l (terminated before) (stem.take column)
      (stem ++ returns.dropLast) = l.classify (settings.uncomment (stem ++ returns.dropLast))) :
    (breakVerdict settings l d before stem returns column).Agrees
      (explain settings l (stem ++ returns.dropLast)) := by
  rw [explain_eq]
  exact ⟨h, rfl, rfl⟩

theorem exists_break_of_decided {D : Dispatcher} {now : Nat} {event : Event} {v : Verdict}
    (hv : (D.handle now event).1 = .decided v) :
    ∃ d before stem returns rest column, D.editor.get? event.document = some d ∧
      StemAt d.text before stem returns rest ∧
      v = breakVerdict D.cache.get.1 v.language d before stem returns column := by
  obtain ⟨change, hchange⟩ := exists_change_of_decided hv
  have hjudge := handle_eq_decided hchange hv
  obtain ⟨d, hd, -, -, -, -, hsnapshot, -⟩ := judge_eq_decided hjudge
  obtain ⟨raw, hraw, -⟩ := Option.map_eq_some_iff.mp hsnapshot
  obtain ⟨before, stem, returns, rest, hline, -, h⟩ := Document.exists_stemAt_of_line? hraw
  have hstart : change.range.start = ⟨before.length, change.range.start.column⟩ := by
    rw [← hline]
  exact ⟨d, before, stem, returns, rest, _, hd, h, judge_eq_decided_of_stemAt hd h hstart hjudge⟩

/-- A verdict agrees with the explanation of its line, unless what stands around the line suppresses
it; and it agrees wherever there are no quotes and no comments. -/
theorem decision_explained {D : Dispatcher} {now : Nat} {event : Event} {v : Verdict}
    (hv : (D.handle now event).1 = .decided v) :
    let e := explain D.cache.get.1 v.language v.snapshot.raw
    ((∃ reason ∈ [Reason.commentLine, .insideString, .insideComment],
      v.classification = .suppress reason) ∨ v.Agrees e) ∧
    (e.classification.decision = .suppress → v.classification.decision = .suppress) ∧
    ∀ d, D.editor.get? event.document = some d →
      Literal.Quoteless (d.text.takeBytes v.snapshot.endOffset) →
      Comment.Markless v.snapshot.raw → ¬ ['*'] <+: v.snapshot.raw.trim → v.Agrees e := by
  obtain ⟨d, before, stem, returns, rest, column, hd, h, hform⟩ := exists_break_of_decided hv
  generalize v.language = l at hform
  subst hform
  intro e
  have hcases := classifyLine_cases D.cache.get.1 l (terminated before) (stem.take column)
    (stem ++ returns.dropLast)
  refine ⟨hcases.imp_right fun hcode => breakVerdict_agrees hcode, fun hsuppress => ?_,
    fun d' hd' hquotes hmarks hstar => ?_⟩
  · rcases hcases with ⟨reason, -, hreason⟩ | hcode
    · exact congrArg Classification.decision hreason
    · exact (congrArg Classification.decision (breakVerdict_agrees hcode).classification_eq).trans
        hsuppress
  · obtain rfl : d = d' := Option.some.inj (hd.symm.trans hd')
    have hend : d.text.takeBytes (d.offsetAt ⟨before.length, (stem ++ returns.dropLast).length⟩) =
        terminated before ++ stem :=
      (Document.cuts_behind_stem h
        (List.sublist_append_left stem returns.dropLast).length_le).takeBytes_eq
    have hfront : Literal.Quoteless (terminated before ++ stem) := hend ▸ hquotes
    have hleft : stem.take column <+: stem := List.take_prefix column stem
    exact breakVerdict_agrees (classifyLine_of_markless
      (hfront.of_isPrefix ((List.prefix_append_right_inj _).mpr hleft)) hmarks hstar
      (hleft.trans (List.prefix_append ..)))

/-- Two lines: the second would get a terminator, if the string of the first were closed. -/
def ofQuote (quote : Text) : Dispatcher :=
  let text := quote ++ "\nfoo(1) \r\n".toList
  start (Editor.empty.openDocument "Main" ⟨"java", text⟩) (.fixed .default)

/-- Behind a quote the second line is suppressed for what stands around it; without the quote it is
decided as it is alone. -/
theorem decision_explained_of_quote :
    ∃ v v', ((ofQuote ['"']).handle 0 (.typed "Main" ⟨1, 7⟩ ['\n'])).1 = .decided v ∧
      ((ofQuote []).handle 0 (.typed "Main" ⟨1, 7⟩ ['\n'])).1 = .decided v' ∧
      (∃ reason ∈ [Reason.commentLine, .insideString, .insideComment],
        v.classification = .suppress reason) ∧
      v'.Agrees (explain .default .java "foo(1) ".toList) ∧
      v'.classification.decision = .insert := by
  let verdict (quote : Text) := breakVerdict .default .java
    ⟨"java", quote ++ "\nfoo(1) \r\n".toList⟩ [quote] "foo(1) ".toList ['\r'] 7
  have hquote : ((ofQuote ['"']).handle 0 (.typed "Main" ⟨1, 7⟩ ['\n'])).1 =
      .decided (verdict ['"']) := by decide
  have hplain : ((ofQuote []).handle 0 (.typed "Main" ⟨1, 7⟩ ['\n'])).1 =
      .decided (verdict []) := by decide
  obtain ⟨hcases, -, -⟩ := decision_explained hquote
  obtain ⟨-, -, hagrees⟩ := decision_explained hplain
  exact ⟨_, _, hquote, hplain,
    hcases.resolve_right fun h => absurd h.classification_eq (by decide),
    hagrees _ rfl (by decide) (by decide) (by decide), by decide⟩

end Dispatcher

end Semicolon
